import BpfDepot.Instant
import BpfDepot.Number.Binary64

/-! # Amounts and ages for a reader

Sizes are shown in bytes, or with one place in units of 1024 bytes and their
square. Ages are shown in whole minutes, hours or days. -/

namespace BpfDepot.Report

/-- The bytes of the smaller unit. -/
def kilobyte : Nat := 1024

/-- The bytes of the larger unit. -/
def megabyte : Nat := 1024 * kilobyte

/-- The tenths of a unit in a number of bytes. The number is first rounded to a
double, and a half of a tenth goes to the even neighbour. -/
def tenths (unit n : Nat) : Nat :=
  let (num, den) := ((Number.Binary64.ofNat? n).map Number.Binary64.ratio).getD (n, 1)
  Number.roundQuotient (10 * num) (den * unit)

/-- A number of tenths with one place. -/
def onePlace (tenths : Nat) : String := toString (tenths / 10) ++ "." ++ toString (tenths % 10)

/-- A number of bytes in the unit that fits it. -/
def size (bytes : Nat) : String :=
  if megabyte ≤ bytes then onePlace (tenths megabyte bytes) ++ " MB"
  else if kilobyte ≤ bytes then onePlace (tenths kilobyte bytes) ++ " KB"
  else toString bytes ++ " B"

/-- How long ago an instant was. -/
def ago (now past : Instant) : String :=
  let seconds := now.secondsSince past
  let minutes := Int.tdiv seconds 60
  let hours := Int.tdiv seconds 3600
  if seconds < 60 then "just now"
  else if minutes < 60 then toString minutes ++ " minutes ago"
  else if hours < 24 then toString hours ++ " hours ago"
  else toString (Int.tdiv seconds 86400) ++ " days ago"

end BpfDepot.Report
