import BpfDepot.Text.Hex
import BpfDepot.Yaml.Fault

/-! # Moving through a YAML document

A cursor stands at a place in a document and has the rest of it in front. The end of
the document counts as a character of its own kind, which is neither a blank nor a
break but ends everything that they end. -/

namespace BpfDepot.Yaml

/-! ## Kinds of characters -/

/-- Whether a document may hold a character. -/
def isAllowed (c : Char) : Bool :=
  let n := c.toNat
  n = 0x09 || n = 0x0A || n = 0x0D || (0x20 ≤ n && n ≤ 0x7E) || n = 0x85
    || (0xA0 ≤ n && n ≤ 0xD7FF) || (0xE000 ≤ n && n ≤ 0xFFFD) || 0x10000 ≤ n

/-- Whether a character ends a line. -/
def isBreak (c : Char) : Bool :=
  c = '\n' || c = '\r' || c = '\u0085' || c = '\u2028' || c = '\u2029'

/-- Whether a character is a space or a tab. -/
def isBlank (c : Char) : Bool := c = ' ' || c = '\t'

/-- Whether a character is a blank or ends a line. -/
def isSpace (c : Char) : Bool := isBlank c || isBreak c

/-- Whether a character may stand in a name. -/
def isNameChar (c : Char) : Bool := c.isAlphanum || c = '_' || c = '-'

/-! ## Cursors -/

/-- A place in a document with what follows it. -/
structure Cursor where
  /-- The number of characters of the document. -/
  size : Nat
  /-- The characters that follow. -/
  rest : List Char
  /-- The place. -/
  place : Place := {}

/-- Computations that move a cursor. -/
abbrev Scan := StateT Cursor (Except Fault)

namespace Scan

/-- The place of the cursor. -/
def here : Scan Place := return (← get).place

/-- As much fuel as can be needed for what takes a character, or the end of the
document, at every turn. -/
def bound : Scan Nat := return (← get).size + 1

/-- The next characters. -/
def ahead : Scan (List Char) := return (← get).rest

/-- Whether the next character is of a kind. -/
def nextIs (kind : Char → Bool) : Scan Bool := return (← ahead).head?.any kind

/-- Whether the next character is of a kind, or the document ends. -/
def nextIsOrEnd (kind : Char → Bool) : Scan Bool := return (← ahead).head?.all kind

/-- Whether nothing is left of the document. -/
def isAtEnd : Scan Bool := return (← ahead).isEmpty

/-- Fails at the cursor, while something was read that began at a place. -/
def fail {α : Type} (context : String) (since : Place) (problem : String) : Scan α := do
  throw (.grammar problem (← here) (some (context, since)))

/-- Moves over a number of characters of one line. -/
def skip (count : Nat) : Scan Unit := modify fun cursor => { cursor with
  rest := cursor.rest.drop count
  place := { cursor.place with
    index := cursor.place.index + count
    column := cursor.place.column + count } }

/-- Moves over characters of a kind that has no line ends. -/
def skipWhile (kind : Char → Bool) : Scan Unit := do
  skip ((← ahead).takeWhile kind).length

/-- Takes characters of a kind that has no line ends. -/
def takeWhile (kind : Char → Bool) : Scan (List Char) := do
  let taken := (← ahead).takeWhile kind
  skip taken.length
  return taken

/-- Takes the end of a line, if the cursor stands before one. It stands for itself
if it is one of the separators, and otherwise for a line feed. -/
def takeBreak : Scan (List Char) := do
  let move (count : Nat) : Scan Unit := modify fun cursor => { cursor with
    rest := cursor.rest.drop count
    place := { index := cursor.place.index + count, line := cursor.place.line + 1 } }
  match ← ahead with
  | '\r' :: '\n' :: _ => move 2; return ['\n']
  | c :: _ =>
    if c = '\u2028' || c = '\u2029' then move 1; return [c]
    else if isBreak c then move 1; return ['\n']
    else return []
  | [] => return []

/-- Moves over a comment, if the cursor stands before one. -/
def skipComment : Scan Unit := do
  if ← nextIs (· = '#') then skipWhile fun c => !isBreak c

/-- Whether the cursor stands before three signs at the beginning of a line that end
a document or begin one. -/
def isAtMark (sign : Char) : Scan Bool := do
  let { rest, place, .. } ← get
  return place.column = 0 && rest.take 3 = [sign, sign, sign] && (rest.drop 3).head?.all isSpace

end Scan

end BpfDepot.Yaml
