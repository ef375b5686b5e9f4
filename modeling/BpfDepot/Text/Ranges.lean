/-! # Sets of characters

A property of characters that no rule computes is given by a table of ranges of
code points, in increasing order. -/

namespace BpfDepot.Text

/-- The code points from `first` to `last`, both included. -/
structure Range where
  /-- The least code point. -/
  first : Nat
  /-- The greatest code point. -/
  last : Nat
  deriving DecidableEq, Repr

/-- Whether a range holds a code point. -/
def Range.contains (r : Range) (code : Nat) : Bool := r.first ≤ code && code ≤ r.last

/-- A set of characters as the list of its ranges. -/
abbrev Ranges := List Range

/-- Whether a table of ranges holds a character. -/
def Ranges.contains (table : Ranges) (c : Char) : Bool :=
  List.any table fun r => r.contains c.toNat

end BpfDepot.Text
