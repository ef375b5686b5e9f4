import BpfDepot.Calendar

/-! # Instants

An instant is a date and a time of day at the meridian, to the nanosecond. The
sixtieth second of a minute, which some minutes have, is a second with more than
a thousand million nanoseconds. -/

namespace BpfDepot

/-- A point in time. -/
structure Instant where
  /-- The day at the meridian. -/
  date : Date
  /-- The hour of the day. -/
  hour : Nat
  /-- The minute of the hour. -/
  minute : Nat
  /-- The second of the minute, 59 also in a leap second. -/
  second : Nat
  /-- The nanoseconds, a thousand million of them more in a leap second. -/
  nano : Nat
  deriving DecidableEq, Repr

namespace Instant

/-- The nanoseconds of a second. -/
def nanosPerSecond : Nat := 1000000000

/-- The seconds of the day before an instant. -/
def secondOfDay (t : Instant) : Nat := (t.hour * 60 + t.minute) * 60 + t.second

/-- The instant at a second of a day. -/
def ofSecond (day : Int) (second nano : Nat) : Instant where
  date := .ofNumber day
  hour := second / 3600
  minute := second / 60 % 60
  second := second % 60
  nano := nano

/-- The instant a number of seconds later, at the same fraction of the second. -/
def addSeconds (t : Instant) (seconds : Int) : Instant :=
  let total := t.secondOfDay + seconds
  ofSecond (t.date.number + Int.fdiv total 86400) (Int.fmod total 86400).toNat t.nano

/-- The instant a number of nanoseconds later. -/
def addNanos (t : Instant) (nanos : Int) : Instant :=
  let total := t.nano + nanos
  { t.addSeconds (Int.fdiv total nanosPerSecond) with nano := (Int.fmod total nanosPerSecond).toNat }

/-- The whole seconds from one instant to a later one, cut off toward zero. A leap
second of the earlier time of day is counted when the other time of day is later,
and the other way round. -/
def secondsSince (later earlier : Instant) : Int :=
  let a := later.secondOfDay
  let b := earlier.secondOfDay
  let leap : Int :=
    if b < a && nanosPerSecond ≤ earlier.nano then 1
    else if a < b && nanosPerSecond ≤ later.nano then -1
    else 0
  let nanos := (later.nano : Int) - earlier.nano
  let total : Int := (((later.date.number - earlier.date.number) * 86400 + (a - b) + leap)
    * nanosPerSecond) + nanos
  Int.tdiv total nanosPerSecond

end Instant

end BpfDepot
