/-! # Replacing text

Every occurrence of a pattern is replaced, from the left to the right, and what is
put in its place is not searched again. -/

namespace BpfDepot.Text

/-- Replaces a pattern, after a number of characters that are dropped. -/
def replaceAfter (pattern new : List Char) : Nat → List Char → List Char
  | _, [] => []
  | dropped + 1, _ :: rest => replaceAfter pattern new dropped rest
  | 0, c :: rest =>
    if pattern.isPrefixOf (c :: rest) then
      new ++ replaceAfter pattern new (pattern.length - 1) rest
    else c :: replaceAfter pattern new 0 rest

/-- Replaces every occurrence of a pattern that is not empty. -/
def replace (pattern replacement text : String) : String :=
  String.ofList (replaceAfter pattern.toList replacement.toList 0 text.toList)

end BpfDepot.Text
