import BpfDepot.Text.Quoted
import BpfDepot.Number.Shortest

/-! # Faults of JSON documents

A document is refused at a place, which is told by its line and by the number of
bytes before it on that line. A fault of the grammar knows its place at once. A
value of the wrong kind is noticed by the reader of that value, and its place is
where the reader of the value around it stops. -/

namespace BpfDepot.Json

/-- A number as it is read. -/
inductive Numeral where
  /-- A natural number below `2 ^ 64`. -/
  | natural (n : Nat)
  /-- The negative of a number from one to `2 ^ 63`. -/
  | negative (n : Nat)
  /-- Any other number, to the nearest double. -/
  | float (minus : Bool) (magnitude : Number.Binary64)
  deriving DecidableEq, Repr

/-- What stands in a document where something else is expected. -/
inductive Found where
  | null
  | bool (b : Bool)
  | numeral (n : Numeral)
  | text (s : String)
  | list
  | object
  deriving DecidableEq, Repr

/-- Doubles are written positionally from a hundred-thousandth up to ten
quadrillions, and with an exponent of two or more digits beyond. -/
def floatLayout : Number.Layout := ⟨some (-5, 16), 2⟩

/-- What was found, in words. -/
def Found.words : Found → String
  | .null => "null"
  | .bool b => "boolean `" ++ toString b ++ "`"
  | .numeral (.natural n) => "integer `" ++ toString n ++ "`"
  | .numeral (.negative n) => "integer `-" ++ toString n ++ "`"
  | .numeral (.float minus magnitude) =>
    "floating point `" ++ (if minus then "-" else "") ++ floatLayout.render magnitude.shortest ++ "`"
  | .text s => "string " ++ Text.quoted s
  | .list => "sequence"
  | .object => "map"

/-- Why a document is refused. -/
inductive Cause where
  | endInList
  | endInObject
  | endInText
  | endInValue
  | expectedColon
  | expectedCommaOrListEnd
  | expectedCommaOrObjectEnd
  | expectedWord
  | expectedValue
  | badEscape
  | badNumber
  | numberTooGreat
  | badEncoding
  | controlInText
  | keyNotText
  | loneSurrogate
  | surrogateNotFollowed
  | trailingComma
  | trailingCharacters
  /-- A value of one kind stands where another kind is expected. -/
  | wrongKind (found : Found) (expected : String)
  /-- A value is of the right kind and outside its range. -/
  | wrongValue (found : Found) (expected : String)
  /-- A list stands for a record and has too few items. -/
  | wrongLength (length : Nat) (expected : String)
  /-- A record lacks a field. -/
  | missingField (name : String)
  /-- A record has a field twice. -/
  | duplicateField (name : String)
  /-- A text is not of the form that its field has. -/
  | badText (reason : String)
  deriving DecidableEq, Repr

/-- The wording of a cause. -/
def Cause.message : Cause → String
  | .endInList => "EOF while parsing a list"
  | .endInObject => "EOF while parsing an object"
  | .endInText => "EOF while parsing a string"
  | .endInValue => "EOF while parsing a value"
  | .expectedColon => "expected `:`"
  | .expectedCommaOrListEnd => "expected `,` or `]`"
  | .expectedCommaOrObjectEnd => "expected `,` or `\x7d`"
  | .expectedWord => "expected ident"
  | .expectedValue => "expected value"
  | .badEscape => "invalid escape"
  | .badNumber => "invalid number"
  | .numberTooGreat => "number out of range"
  | .badEncoding => "invalid unicode code point"
  | .controlInText => "control character (\\u0000-\\u001F) found while parsing a string"
  | .keyNotText => "key must be a string"
  | .loneSurrogate => "lone leading surrogate in hex escape"
  | .surrogateNotFollowed => "unexpected end of hex escape"
  | .trailingComma => "trailing comma"
  | .trailingCharacters => "trailing characters"
  | .wrongKind found expected => "invalid type: " ++ found.words ++ ", expected " ++ expected
  | .wrongValue found expected => "invalid value: " ++ found.words ++ ", expected " ++ expected
  | .wrongLength length expected =>
    "invalid length " ++ toString length ++ ", expected " ++ expected
  | .missingField name => "missing field `" ++ name ++ "`"
  | .duplicateField name => "duplicate field `" ++ name ++ "`"
  | .badText reason => reason

/-- A cause with its place, which is told by the number of bytes that follow it. -/
structure Fault where
  /-- Why the document is refused. -/
  cause : Cause
  /-- How many bytes of the document follow the place, once the place is known. -/
  remaining : Option Nat
  deriving DecidableEq, Repr

/-- The line of the place after some bytes, the first line being 1, and the number
of bytes on it. -/
def place (before : List UInt8) : Nat × Nat :=
  (before.count 10 + 1, (before.reverse.takeWhile (· ≠ 10)).length)

/-- A fault of a document in words. -/
def Fault.message (document : List UInt8) (fault : Fault) : String :=
  match fault.remaining with
  | none => fault.cause.message
  | some remaining =>
    let (line, column) := place (document.take (document.length - remaining))
    fault.cause.message ++ " at line " ++ toString line ++ " column " ++ toString column

end BpfDepot.Json
