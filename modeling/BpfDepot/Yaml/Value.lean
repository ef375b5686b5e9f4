import BpfDepot.Number.Shortest
import BpfDepot.Text.Hex
import BpfDepot.Text.Quoted
import BpfDepot.Yaml.Document

/-! # What scalars stand for

A plain scalar stands for nothing, a truth value, a number or a text, by its form. A
tag can ask for one of these, and then the text must have that form. -/

namespace BpfDepot.Yaml

/-- What a node stands for, as far as messages tell it. -/
inductive Meaning where
  | nothing
  | truth (b : Bool)
  /-- A whole number of no more than 64 bits. -/
  | whole (n : Int)
  /-- A natural number of no more than 128 bits. -/
  | longNatural (n : Nat)
  /-- A whole number of no more than 128 bits below zero. -/
  | longInteger (n : Int)
  | float (minus : Bool) (magnitude : Number.Binary64)
  | infinity (minus : Bool)
  | notANumber
  | text (s : List Char)
  | sequence
  | mapping
  deriving DecidableEq, Repr

namespace Meaning

/-- What a node stands for, in words. -/
def words : Meaning → String
  | .nothing => "unit value"
  | .truth b => "boolean `" ++ toString b ++ "`"
  | .whole n => "integer `" ++ toString n ++ "`"
  | .longNatural n => "integer `" ++ toString n ++ "` as u128"
  | .longInteger n => "integer `" ++ toString n ++ "` as i128"
  | .float minus magnitude =>
    let layout : Number.Layout := ⟨none, 1⟩
    "floating point `" ++ (if minus then "-" else "") ++ layout.render magnitude.shortest ++ "`"
  | .infinity minus => "floating point `" ++ (if minus then "-inf" else "inf") ++ "`"
  | .notANumber => "floating point `NaN`"
  | .text s => "string " ++ Text.quoted (String.ofList s)
  | .sequence => "sequence"
  | .mapping => "map"

end Meaning

/-! ## Forms -/

/-- Drops a word from the front of a text, if it is there. -/
def stripWord? (word : String) (text : List Char) : Option (List Char) :=
  if word.toList.isPrefixOf text then some (text.drop word.length) else none

/-- Whether a text has one of some forms. -/
def isOneOf (words : List String) (text : List Char) : Bool :=
  words.contains (String.ofList text)

/-- Whether a text stands for nothing. -/
def isNull : List Char → Bool := isOneOf ["null", "Null", "NULL", "~"]

/-- The truth value that a text stands for. -/
def truth? (text : List Char) : Option Bool :=
  if isOneOf ["true", "True", "TRUE"] text then some true
  else if isOneOf ["false", "False", "FALSE"] text then some false
  else none

/-- The number that digits to a base stand for. -/
def digits? (base : Nat) (text : List Char) : Option Nat :=
  if text = [] then none
  else
    (text.mapM fun c => (Text.hexValue? c).filter (· < base)).map fun values =>
      values.foldl (fun n d => base * n + d) 0

/-- Whether a text has digits after a zero in front, so that it is no number. -/
def isZeroPadded (text : List Char) : Bool :=
  match text with
  | '0' :: c :: rest => (c :: rest).all Char.isDigit
  | '-' :: '0' :: c :: rest => (c :: rest).all Char.isDigit
  | '+' :: '0' :: c :: rest => (c :: rest).all Char.isDigit
  | _ => false

/-- The number with a base of its own or to the base ten that a text after a sign
stands for, if it is below a bound. -/
def unsigned? (bound : Nat) (text : List Char) : Option Nat :=
  let based (mark : String) (base : Nat) : Option Nat := do
    (← digits? base (← stripWord? mark text)) |> fun n => if n < bound then some n else none
  based "0x" 16 <|> based "0o" 8 <|> based "0b" 2 <|>
    if isZeroPadded text then none else (digits? 10 text).filter (· < bound)

/-- The natural number below a bound that a text stands for. -/
def natural? (bound : Nat) (text : List Char) : Option Nat :=
  unsigned? bound (match text with
    | '+' :: rest => rest
    | _ => text)

/-- The natural number up to a bound whose negative a text stands for. -/
def negative? (bound : Nat) (text : List Char) : Option Nat :=
  match text with
  | '-' :: rest => unsigned? (bound + 1) rest
  | _ => none

/-- The whole number that a text stands for. -/
def whole? (text : List Char) : Option Meaning :=
  ((natural? (Nat.pow 2 64) text).map fun n => .whole n) <|>
    ((negative? (Nat.pow 2 63) text).map fun n => .whole (-n)) <|>
    ((natural? (Nat.pow 2 128) text).map .longNatural) <|>
    (negative? (Nat.pow 2 127) text).map fun n => .longInteger (-n)

/-- The exponent of a number, zero if there is none. -/
def exponent? (text : List Char) : Option Int :=
  match text with
  | [] => some 0
  | c :: rest =>
    if c = 'e' || c = 'E' then
      match rest with
      | '-' :: digits => (digits? 10 digits).map fun n => -n
      | '+' :: digits => (digits? 10 digits).map fun n => n
      | digits => (digits? 10 digits).map fun n => n
    else none

/-- The double nearest to the decimal that a text without a sign stands for. -/
def decimal? (text : List Char) : Option Number.Binary64 := do
  let before := text.takeWhile Char.isDigit
  let rest := text.dropWhile Char.isDigit
  let (after, rest) := match rest with
    | '.' :: rest => (rest.takeWhile Char.isDigit, rest.dropWhile Char.isDigit)
    | _ => ([], rest)
  let digits ← digits? 10 (before ++ after)
  Number.Binary64.ofDecimal? digits ((← exponent? rest) - after.length)

/-- The number with a fraction or an exponent that a text stands for. -/
def float? (text : List Char) : Option Meaning :=
  let infinite := isOneOf [".inf", ".Inf", ".INF"]
  match text with
  | '+' :: rest =>
    if infinite rest then some (.infinity false) else (decimal? rest).map (.float false)
  | '-' :: rest =>
    if infinite rest then some (.infinity true) else (decimal? rest).map (.float true)
  | _ =>
    if infinite text then some (.infinity false)
    else if isOneOf [".nan", ".NaN", ".NAN"] text then some .notANumber
    else (decimal? text).map (.float false)

/-- What a plain scalar without a tag stands for. -/
def plainMeaning (text : List Char) : Meaning :=
  if text = [] || isNull text then .nothing
  else
    ((truth? text).map Meaning.truth <|> whole? text <|>
      if isZeroPadded text then none else float? text).getD (.text text)

/-! ## Tags -/

/-- What a tag of the core schema is spelled. -/
def coreTag (name : String) : List Char := ("tag:yaml.org,2002:" ++ name).toList

/-- What is said when a text lacks the form that its tag asks for. -/
def misfit (text : List Char) (expected : String) : String :=
  "invalid value: string " ++ Text.quoted (String.ofList text) ++ ", expected " ++ expected

/-- What a scalar stands for, or why it cannot have its tag. -/
def meaning (tag : Option (List Char)) (text : List Char) (style : Style) :
    Except String Meaning :=
  let asked (found : Option Meaning) (expected : String) : Except String Meaning :=
    match found with
    | some meaning => .ok meaning
    | none => .error (misfit text expected)
  match tag with
  | none => .ok (if style = .plain then plainMeaning text else .text text)
  | some tag =>
    if tag = coreTag "bool" then asked ((truth? text).map .truth) "a boolean"
    else if tag = coreTag "int" then asked (whole? text) "an integer"
    else if tag = coreTag "float" then asked (float? text) "a float"
    else if tag = coreTag "null" then
      asked (if isNull text then some .nothing else none) "null"
    else .ok (if tag.head? = some '!' && style = .plain then plainMeaning text else .text text)

end BpfDepot.Yaml
