/-! # Blank characters

Text that a person types may have blanks at both ends. A character is blank
when it has the white space property of the character standard; `trim` removes
the blanks at both ends of a text and keeps those between other characters. -/

namespace BpfDepot.Text

/-- Whether a character is white space in any script. -/
def isBlank (c : Char) : Bool :=
  let code := c.toNat
  (0x09 ≤ code && code ≤ 0x0D) || code == 0x20 || code == 0x85 || code == 0xA0
    || code == 0x1680 || (0x2000 ≤ code && code ≤ 0x200A) || code == 0x2028 || code == 0x2029
    || code == 0x202F || code == 0x205F || code == 0x3000

/-- The characters of the core class are blank. -/
theorem isBlank_of_isWhitespace {c : Char} (white : c.isWhitespace = true) : isBlank c = true := by
  simp only [Char.isWhitespace, Bool.or_eq_true, decide_eq_true_eq] at white
  rcases white with ((rfl | rfl) | rfl) | rfl <;> decide

/-- Drops the blanks at the end of a text. -/
def trimEnd (text : List Char) : List Char :=
  (text.reverse.dropWhile isBlank).reverse

/-- Drops the blanks at both ends of a text. -/
def trim (text : List Char) : List Char :=
  trimEnd (text.dropWhile isBlank)

/-- Drops the blanks at both ends of a string. -/
def trimmed (text : String) : String := String.ofList (trim text.toList)

end BpfDepot.Text
