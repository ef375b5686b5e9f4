/-! # Faults of YAML documents

A document is refused for its grammar, with the place where the reader stopped and
what it was reading since which place, or for a value that does not fit what is read
from it. The beginning of a document is never told as a place. -/

namespace BpfDepot.Yaml

/-- A place in a document. -/
structure Place where
  /-- The number of characters before it. -/
  index : Nat := 0
  /-- The number of lines before its line. -/
  line : Nat := 0
  /-- The number of characters before it on its line. -/
  column : Nat := 0
  deriving DecidableEq, Repr

namespace Place

/-- Whether a place is at the beginning of the document. -/
def isStart (p : Place) : Bool := p.line = 0 && p.column = 0

/-- A place at the end of a message, which does not tell the beginning. -/
def told (p : Place) : String :=
  if p.isStart then ""
  else " at line " ++ toString (p.line + 1) ++ " column " ++ toString (p.column + 1)

end Place

/-- Why a document is refused. -/
inductive Fault where
  /-- A character that no document may hold stands after this many bytes. -/
  | control (offset : Nat)
  /-- The grammar is broken at a place, while something was read that began at
  another place. -/
  | grammar (problem : String) (place : Place) (context : Option (String × Place))
  /-- A reference to a node that has not been named. -/
  | unknownAnchor (place : Place)
  /-- There is a second document. -/
  | severalDocuments
  /-- There is no value where one is needed. -/
  | noValue
  /-- A value does not fit what is read from it. -/
  | value (path : String) (problem : String) (place : Place)
  deriving DecidableEq, Repr

/-- The wording of a fault. -/
def Fault.message : Fault → String
  | .control offset =>
    "control characters are not allowed"
      ++ if offset = 0 then "" else " at position " ++ toString offset
  | .grammar problem place context =>
    problem ++ place.told
      ++ match context with
        | none => ""
        | some (what, since) =>
          ", " ++ what
            ++ if since.line = place.line && since.column = place.column then "" else since.told
  | .unknownAnchor place => "unknown anchor" ++ place.told
  | .severalDocuments =>
    "deserializing from YAML containing more than one document is not supported"
  | .noValue => "EOF while parsing a value"
  | .value path problem place =>
    (if path = "" then problem else path ++ ": " ++ problem) ++ place.told

end BpfDepot.Yaml
