import BpfDepot.Text.Hidden

/-! # Text between quotation marks

A text that is shown inside a message or a log line stands between quotation
marks. A quotation mark and a backslash inside it are written with a backslash,
five controls have a letter of their own, and every other character that does
not show is written by the hexadecimal digits of its code in braces. -/

namespace BpfDepot.Text

/-- The digits of a number in base 16, in lower case, most significant first. -/
def hexDigits (n : Nat) : List Char := Nat.toDigits 16 n

/-- How one character is written between quotation marks. -/
def showChar (c : Char) : List Char :=
  match c with
  | '"' => ['\\', '"']
  | '\\' => ['\\', '\\']
  | '\n' => ['\\', 'n']
  | '\r' => ['\\', 'r']
  | '\t' => ['\\', 't']
  | '\x00' => ['\\', '0']
  | _ => if isHidden c then ['\\', 'u', '\x7b'] ++ hexDigits c.toNat ++ ['\x7d'] else [c]

/-- A text between quotation marks. -/
def quoted (text : String) : String :=
  String.ofList ('"' :: text.toList.flatMap showChar ++ ['"'])

/-- A list of texts, each between quotation marks, in square brackets. -/
def quotedList (texts : List String) : String :=
  "[" ++ ", ".intercalate (texts.map quoted) ++ "]"

/-- A text that may be absent, as it is shown in a log line. -/
def quotedOption : Option String → String
  | some text => "Some(" ++ quoted text ++ ")"
  | none => "None"

end BpfDepot.Text
