/-! # Digits to the base 16

A byte is written with two digits in lower case. -/

namespace BpfDepot.Text

/-- The digit to the base 16 of a number below 16. -/
def hexDigit (n : Nat) : Char := Nat.digitChar n

/-- The two digits of a byte. -/
def byteDigits (b : UInt8) : List Char := [hexDigit (b.toNat / 16), hexDigit (b.toNat % 16)]

/-- The digits of a sequence of bytes. -/
def hex (bytes : List UInt8) : String := String.ofList (bytes.flatMap byteDigits)

/-- The number that a digit to the base 16 stands for, in either case. -/
def hexValue? (c : Char) : Option Nat :=
  if c.isDigit then some (c.toNat - '0'.toNat)
  else if 'a' ≤ c && c ≤ 'f' then some (c.toNat - 'a'.toNat + 10)
  else if 'A' ≤ c && c ≤ 'F' then some (c.toNat - 'A'.toNat + 10)
  else none

end BpfDepot.Text
