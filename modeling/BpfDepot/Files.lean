import BpfDepot.Error
import BpfDepot.Path

/-! # The file system as it is used

What is asked of the file system is either what stands at a path, which has an
answer in every case, or a call, which may fail. How both are answered is up to
the monad. -/

namespace BpfDepot

/-- What can stand at a path. -/
inductive FileKind where
  | file
  | directory
  deriving DecidableEq, Repr

/-- A call to the file system that gives back a value of a type. -/
inductive FileCall : Type → Type where
  /-- The bytes of a file. -/
  | read (path : String) : FileCall ByteArray
  /-- Gives a file new bytes, and makes it if it is not there. -/
  | write (path : String) (bytes : ByteArray) : FileCall Unit
  /-- Makes a directory and those around it that are missing. -/
  | createTree (path : String) : FileCall Unit
  /-- Removes a directory with everything in it. -/
  | removeTree (path : String) : FileCall Unit
  /-- Moves a file or a directory to another path, in place of a file or an empty
  directory that stands there. -/
  | rename (source target : String) : FileCall Unit

/-- A monad with a file system. -/
class Files (m : Type → Type) where
  /-- What stands at a path, which is nothing also if that cannot be told. -/
  kind? : String → m (Option FileKind)
  /-- Makes a call. -/
  call : {α : Type} → FileCall α → m (Except FileFault α)

namespace Files

variable {m : Type → Type} [Monad m] [Files m] {α : Type}

/-- Whether anything stands at a path. -/
def isPresent (path : String) : m Bool := return (← kind? path).isSome

/-- Whether a file stands at a path. -/
def isFile (path : String) : m Bool := return (← kind? path) = some .file

/-- Makes a call as a step that may fail. -/
def attempt (request : FileCall α) : ExceptT FileFault m α := ExceptT.mk (call request)

/-- The text of a file. -/
def readText (path : String) : ExceptT FileFault m String := do
  let bytes ← attempt (m := m) (.read path)
  match String.fromUTF8? bytes with
  | some text => return text
  | none => throw .notText

/-- Words the failure of a step. -/
def explain (step : ExceptT FileFault m α) (word : FileFault → Error) : ExceptT Error m α :=
  ExceptT.mk do
    match ← step.run with
    | .ok a => return .ok a
    | .error fault => return .error (word fault)

end Files

end BpfDepot
