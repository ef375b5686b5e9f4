/-! # Dates

A date is a year, a month and a day of the month in the calendar that counts
leap years back before its adoption. Days are numbered from the first of January
1970, and `Date.ofNumber` finds the date of a number. -/

namespace BpfDepot

/-- Whether a year has a leap day. -/
def isLeapYear (year : Int) : Bool :=
  year % 4 = 0 && (year % 100 ≠ 0 || year % 400 = 0)

/-- The number of days of a month. -/
def daysInMonth (year : Int) (month : Nat) : Nat :=
  if month = 2 then if isLeapYear year then 29 else 28
  else if month = 4 || month = 6 || month = 9 || month = 11 then 30
  else 31

/-- A day of the calendar. -/
structure Date where
  /-- The year, with a year zero before the year one. -/
  year : Int
  /-- The month, from 1 to 12. -/
  month : Nat
  /-- The day of the month, from 1. -/
  day : Nat
  deriving DecidableEq, Repr

namespace Date

/-- The first year that a date may have. -/
def firstYear : Int := -262143

/-- The last year that a date may have. -/
def lastYear : Int := 262142

/-- The date of a day that the calendar has. -/
def of? (year : Int) (month day : Nat) : Option Date :=
  if firstYear ≤ year && year ≤ lastYear && 1 ≤ month && month ≤ 12 && 1 ≤ day
      && day ≤ daysInMonth year month then
    some ⟨year, month, day⟩
  else none

/-- The number of days from the first of January 1970. The count runs over years
that begin in March, so that a leap day is the last of its year, and over ages of
four hundred such years. -/
def number (d : Date) : Int :=
  let year := if d.month ≤ 2 then d.year - 1 else d.year
  let age := Int.fdiv year 400
  let yearOfAge := year - age * 400
  let monthOfYear : Int := (d.month + 9) % 12
  let dayOfYear := (153 * monthOfYear + 2) / 5 + d.day - 1
  let dayOfAge := yearOfAge * 365 + yearOfAge / 4 - yearOfAge / 100 + dayOfYear
  age * 146097 + dayOfAge - 719468

/-- The date with a number. -/
def ofNumber (n : Int) : Date :=
  let shifted := n + 719468
  let age := Int.fdiv shifted 146097
  let dayOfAge := shifted - age * 146097
  let yearOfAge := (dayOfAge - dayOfAge / 1460 + dayOfAge / 36524 - dayOfAge / 146096) / 365
  let dayOfYear := dayOfAge - (365 * yearOfAge + yearOfAge / 4 - yearOfAge / 100)
  let monthOfYear := (5 * dayOfYear + 2) / 153
  let day := dayOfYear - (153 * monthOfYear + 2) / 5 + 1
  let month := if monthOfYear < 10 then monthOfYear + 3 else monthOfYear - 9
  let year := yearOfAge + age * 400
  ⟨if month ≤ 2 then year + 1 else year, month.toNat, day.toNat⟩

end Date

end BpfDepot
