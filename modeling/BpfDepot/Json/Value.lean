/-! # JSON documents

A document is written in one of two ways: with nothing between its parts, or with
one entry to a line and two spaces for each level. Inside a text the quotation
mark, the backslash and the controls are escaped, and every other character
stands for itself. -/

namespace BpfDepot.Json

/-- A JSON value without fractions, which is all that is ever written. The entries
of an object keep their order. -/
inductive Value where
  | null
  | bool (b : Bool)
  | number (n : Int)
  | text (s : String)
  | list (items : List Value)
  | object (entries : List (String × Value))
  deriving Inhabited

/-- How one character of a text is written. -/
def escape (c : Char) : List Char :=
  match c with
  | '"' => ['\\', '"']
  | '\\' => ['\\', '\\']
  | '\x08' => ['\\', 'b']
  | '\x0c' => ['\\', 'f']
  | '\n' => ['\\', 'n']
  | '\r' => ['\\', 'r']
  | '\t' => ['\\', 't']
  | _ =>
    if c.toNat < 0x20 then
      ['\\', 'u', '0', '0', Nat.digitChar (c.toNat / 16), Nat.digitChar (c.toNat % 16)]
    else [c]

/-- A text between quotation marks. -/
def quote (s : String) : List Char := '"' :: s.toList.flatMap escape ++ ['"']

/-- The digits of a whole number. -/
def digits (n : Int) : List Char := (toString n).toList

mutual

/-- A value with nothing between its parts. -/
def Value.compact : Value → List Char
  | .null => "null".toList
  | .bool true => "true".toList
  | .bool false => "false".toList
  | .number n => digits n
  | .text s => quote s
  | .list items => '[' :: compactItems items ++ [']']
  | .object entries => '\x7b' :: compactEntries entries ++ ['\x7d']

/-- The items of a list with commas between them. -/
def compactItems : List Value → List Char
  | [] => []
  | [item] => item.compact
  | item :: rest => item.compact ++ ',' :: compactItems rest

/-- The entries of an object with commas between them. -/
def compactEntries : List (String × Value) → List Char
  | [] => []
  | [(key, value)] => quote key ++ ':' :: value.compact
  | (key, value) :: rest => quote key ++ ':' :: value.compact ++ ',' :: compactEntries rest

end

/-- The beginning of a line at a level. -/
def newLine (level : Nat) : List Char := '\n' :: List.replicate (2 * level) ' '

mutual

/-- A value with one entry to a line, inside the given number of levels. An empty
list or object takes no lines of its own. -/
def Value.indented (level : Nat) : Value → List Char
  | .list [] => ['[', ']']
  | .list items => '[' :: indentedItems (level + 1) items ++ newLine level ++ [']']
  | .object [] => ['\x7b', '\x7d']
  | .object entries =>
    '\x7b' :: indentedEntries (level + 1) entries ++ newLine level ++ ['\x7d']
  | .null => Value.null.compact
  | .bool b => (Value.bool b).compact
  | .number n => (Value.number n).compact
  | .text s => (Value.text s).compact

/-- The items of a list, each on a line of its own. -/
def indentedItems (level : Nat) : List Value → List Char
  | [] => []
  | [item] => newLine level ++ item.indented level
  | item :: rest => newLine level ++ item.indented level ++ ',' :: indentedItems level rest

/-- The entries of an object, each on a line of its own. -/
def indentedEntries (level : Nat) : List (String × Value) → List Char
  | [] => []
  | [(key, value)] => newLine level ++ quote key ++ ':' :: ' ' :: value.indented level
  | (key, value) :: rest =>
    newLine level ++ quote key ++ ':' :: ' ' :: value.indented level
      ++ ',' :: indentedEntries level rest

end

/-- A document with nothing between its parts. -/
def Value.toText (v : Value) : String := String.ofList v.compact

/-- A document with one entry to a line. -/
def Value.toLines (v : Value) : String := String.ofList (v.indented 0)

end BpfDepot.Json
