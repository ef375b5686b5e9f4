import BpfDepot.Instant
import BpfDepot.Text.Blank

/-! # Instants as text

An instant is written as its date, the letter T and its time, with a fraction of
as many groups of three digits as it needs and the offset of the meridian. What is
read may be less strict: numbers may lack leading zeros, blanks may stand before
them and before the marks between them, the years may be signed and of any
length, and the offset may be that of any place. -/

namespace BpfDepot.Instant

/-! ## Writing -/

/-- A number in decimal digits, with zeros in front up to a width. -/
def padded (width n : Nat) : List Char :=
  let digits := Nat.toDigits 10 n
  List.replicate (width - digits.length) '0' ++ digits

/-- A year of four digits, or with a sign and at least four digits. -/
def yearText (year : Int) : List Char :=
  if 0 ≤ year && year ≤ 9999 then padded 4 year.toNat
  else (if year < 0 then '-' else '+') :: padded 4 year.natAbs

/-- The fraction of a second with three, six or nine digits, or nothing. -/
def fractionText (nano : Nat) : List Char :=
  if nano = 0 then []
  else if nano % 1000000 = 0 then '.' :: padded 3 (nano / 1000000)
  else if nano % 1000 = 0 then '.' :: padded 6 (nano / 1000)
  else '.' :: padded 9 nano

/-- An instant with the given name of the meridian's offset. -/
def textWith (zone : String) (t : Instant) : String :=
  let leap := nanosPerSecond ≤ t.nano
  String.ofList (yearText t.date.year ++ '-' :: padded 2 t.date.month ++ '-' :: padded 2 t.date.day
    ++ 'T' :: padded 2 t.hour ++ ':' :: padded 2 t.minute
    ++ ':' :: padded 2 (if leap then t.second + 1 else t.second)
    ++ fractionText (if leap then t.nano - nanosPerSecond else t.nano) ++ zone.toList)

/-- An instant as it is stored. -/
def toText (t : Instant) : String := t.textWith "Z"

/-- An instant with its offset in digits, as it is shown. -/
def toOffsetText (t : Instant) : String := t.textWith "+00:00"

/-! ## Reading -/

/-- Why a text is no instant. -/
inductive Fault where
  /-- A number is outside its range, or the calendar lacks the day. -/
  | outOfRange
  /-- Another character stands where a part is expected. -/
  | invalid
  /-- The text ends before all parts are read. -/
  | tooShort
  /-- Something follows the last part. -/
  | tooLong
  deriving DecidableEq, Repr

/-- The wording of a fault. -/
def Fault.message : Fault → String
  | .outOfRange => "input is out of range"
  | .invalid => "input contains invalid characters"
  | .tooShort => "premature end of input"
  | .tooLong => "trailing input"

/-- A reader of the front of a text. -/
abbrev Scan := StateT (List Char) (Except Fault)

namespace Scan

/-- Drops the blanks in front. -/
def skipBlanks : Scan Unit := modify (List.dropWhile Text.isBlank)

/-- The value of decimal digits. -/
def value (digits : List Char) : Nat :=
  digits.foldl (fun n c => 10 * n + (c.toNat - '0'.toNat)) 0

/-- Takes one to `width` digits, without a width as many as there are, and fails on
a number of more than 63 bits. -/
def number (width : Option Nat) : Scan Nat := do
  let text ← get
  match text with
  | [] => throw .tooShort
  | c :: _ =>
    if !c.isDigit then throw .invalid
    else
      let run := text.takeWhile Char.isDigit
      let digits := match width with
        | some width => run.take width
        | none => run
      if Nat.pow 2 63 ≤ value digits then throw .outOfRange
      set (text.drop digits.length)
      return value digits

/-- Takes a mark between two parts, blanks before it aside. -/
def mark (c : Char) : Scan Unit := do
  skipBlanks
  match ← get with
  | [] => throw .tooShort
  | d :: rest => if d = c then set rest else throw .invalid

/-- Takes a number of at most two digits in a range, blanks before it aside. -/
def twoDigits (low high : Nat) : Scan Nat := do
  skipBlanks
  let n ← number (some 2)
  if low ≤ n && n ≤ high then return n else throw .outOfRange

/-- Takes a year, blanks before it aside. -/
def year : Scan Int := do
  skipBlanks
  let n : Int ← match ← get with
    | '-' :: rest => set rest; pure (-(← number none : Int))
    | '+' :: rest => set rest; pure (← number none : Int)
    | _ => pure (← number (some 4) : Int)
  if -(Nat.pow 2 31) ≤ n && n < Nat.pow 2 31 then return n else throw .outOfRange

/-- Takes a fraction of a second if there is one. More than nine digits are cut
off. -/
def fraction : Scan Nat := do
  match ← get with
  | '.' :: rest =>
    set rest
    let run := rest.takeWhile Char.isDigit
    let n ← number (some 9)
    modify (List.dropWhile Char.isDigit)
    return n * Nat.pow 10 (9 - min 9 run.length)
  | _ => return 0

/-- Takes two digits of an offset. A single character is too short only if it takes
a single byte. -/
def offsetDigits : Scan Nat := do
  match ← get with
  | [] => throw .tooShort
  | [c] => throw (if c.toNat < 0x80 then .tooShort else .invalid)
  | c :: d :: rest =>
    if c.isDigit && d.isDigit then
      set rest
      return value [c, d]
    else throw .invalid

/-- Takes the offset of a place in seconds. -/
def offset : Scan Int := do
  skipBlanks
  let text ← get
  if (text.take 3).map Char.toUpper = "UTC".toList then
    set (text.drop 3)
    return 0
  match text with
  | [] => throw .tooShort
  | sign :: rest =>
    set rest
    if sign = 'Z' || sign = 'z' then return 0
    else if sign = '+' || sign = '-' || sign = '\u2212' then
      let hours ← offsetDigits
      modify (List.dropWhile fun c => c = ':' || Text.isBlank c)
      let minutes ← offsetDigits
      if 60 ≤ minutes then throw .outOfRange
      let seconds : Int := hours * 3600 + minutes * 60
      return if sign = '+' then seconds else -seconds
    else throw .invalid

/-- Takes an instant with its offset and shifts it to the meridian. -/
def instant : Scan Instant := do
  let year ← year
  mark '-'
  let month ← twoDigits 1 12
  mark '-'
  let day ← twoDigits 1 31
  match ← get with
  | [] => throw .tooShort
  | c :: rest => if c = 't' || c = 'T' || c = ' ' then set rest else throw .invalid
  let hour ← twoDigits 0 23
  mark ':'
  let minute ← twoDigits 0 59
  mark ':'
  let second ← twoDigits 0 60
  let nano ← fraction
  let offset ← offset
  modify (List.dropWhile Text.isBlank)
  if (← get) ≠ [] then throw .tooLong
  let some date := Date.of? year month day | throw .outOfRange
  let leap := second = 60
  let t : Instant := {
    date, hour, minute
    second := if leap then 59 else second
    nano := if leap then nano + nanosPerSecond else nano }
  if 86400 ≤ offset.natAbs then throw .outOfRange
  if offset = 0 then return t
  else
    let t := t.addSeconds (-offset)
    if Date.firstYear ≤ t.date.year && t.date.year ≤ Date.lastYear then return t
    else throw .outOfRange

end Scan

/-- Reads an instant. -/
def parse (text : String) : Except Fault Instant :=
  (Scan.instant.run text.toList).map Prod.fst

end BpfDepot.Instant
