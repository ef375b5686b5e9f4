import BpfDepot.Text.Cut

/-! # Paths

A path is a text whose parts stand between slashes. It begins with a slash if it
starts at the root, and otherwise it starts at the working directory. -/

namespace BpfDepot.Path

/-- Whether a path starts at the root. -/
def isAbsolute (path : String) : Bool := path.toList.head? = some '/'

/-- The path of something inside a directory. A path that starts at the root stays
as it is, and what is inside the empty path is where the path says. -/
def join (directory inside : String) : String :=
  if isAbsolute inside || directory = "" then inside
  else if directory.toList.getLast? = some '/' then directory ++ inside
  else directory ++ "/" ++ inside

/-- Where something is made before it takes its place under a path whose last part
has no point. -/
def temporary (path : String) : String := path ++ ".tmp"

/-- The parts of a path. A slash at the end is followed by an empty part. -/
def parts (path : String) : List String :=
  let pieces := (Text.pieces '/' path.toList).map String.ofList
  if isAbsolute path then pieces.drop 1 else pieces

/-- The parts of a path that name something. -/
def names (path : String) : List String := (parts path).filter (· ≠ "")

end BpfDepot.Path
