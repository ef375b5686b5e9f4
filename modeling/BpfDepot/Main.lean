import BpfDepot.Program

/-! # The program on its host

The host of the program is the system it runs on. Its clock is that of the file
system, read from a file that is made for the purpose. No event is a warning, and
nothing less than a warning is shown. There is no client for the network, so that
every request fails as when nobody listens. -/

namespace BpfDepot.Main

/-- What a failure of the system says of a file. -/
def faultOf : IO.Error → FileFault
  | .noFileOrDirectory .. => .notFound
  | .noSuchThing .. => .notFound
  | .alreadyExists _ code _ => if code = 39 then .notEmpty else .alreadyExists
  | .unsatisfiedConstraints .. => .notEmpty
  | .inappropriateType _ code _ => if code = 21 then .isDirectory else .notDirectory
  | error => .other (toString error)

/-- What is known of a path. -/
def metadata (path : String) : IO IO.FS.Metadata := do ((← IO.currentDir) / path).metadata

/-- What stands at a path. -/
def kindOf? (path : String) : IO (Option FileKind) := do
  try
    match (← metadata path).type with
    | .file => return some .file
    | .dir => return some .directory
    | _ => return some .file
  catch _ => return none

/-- Makes a call to the file system. -/
def callSystem {α : Type} : FileCall α → IO α
  | .read path => IO.FS.readBinFile path
  | .write path bytes => IO.FS.writeBinFile path bytes
  | .createTree path => do if path ≠ "" then IO.FS.createDirAll path
  | .removeTree path => IO.FS.removeDirAll path
  | .rename source target => IO.FS.rename source target

/-- The present. -/
def present : IO Instant := do
  let (_, path) ← IO.FS.createTempFile
  let modified := (← path.metadata).modified
  IO.FS.removeFile path
  let start : Instant := { date := ⟨1970, 1, 1⟩, hour := 0, minute := 0, second := 0, nano := 0 }
  return (start.addSeconds modified.sec).addNanos modified.nsec.toNat

instance : Host IO where
  emit _ := return ()
  kind? := kindOf?
  call request := do
    try return .ok (← callSystem request)
    catch error => return .error (faultOf error)
  now := present
  lookup name := IO.getEnv name
  home? := return (← IO.getEnv "HOME").filter (· ≠ "")
  network := return .unreachable
  print text := do
    let output ← IO.getStdout
    output.putStr text
    output.flush

end BpfDepot.Main

/-- Runs the program with the words of its command line. -/
def main (words : List String) : IO UInt32 := do
  let ending ← BpfDepot.Program.run words
  IO.eprint ending.complaint
  return ending.code.toUInt32
