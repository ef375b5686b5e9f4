import BpfDepot.Package
import BpfDepot.Target

/-! # Pushing and pulling packages

A package becomes an artifact with one layer, its program, by way of a memory
store of its own, the stage. Pushing copies the stage to a target; pulling copies
an artifact to an empty stage and takes the files of a package from it. -/

namespace BpfDepot.Exchange

variable {m : Type → Type} [Monad m] [Log m]

/-- The stage that holds a package under a reference, and the digest of the
package. -/
def stage (reference : String) (package : Package) : Except Error (MemoryStore × String) := do
  let (stage, program) :=
    MemoryStore.empty.add Package.programName Package.programMediaType package.program
  let config := Descriptor.ofBlob Configuration.fileName Configuration.mediaType
    package.configBytes none
  let stage ← stage.set config package.configBytes
  let manifest ← Manifest.ofBlobs config none [program]
  stage.storeManifest reference manifest

/-- The package whose files are on a stage. -/
def unstage (reference : String) (stage : MemoryStore) : Except Error Package := do
  let file (name : String) : Except Error ByteArray :=
    match stage.getByName? name with
    | some (_, bytes) => .ok bytes
    | none => .error (.missingEntry name reference)
  let program ← file Package.programName
  let bytes ← file Configuration.fileName
  match Configuration.decode bytes with
  | .ok config => return { program, config }
  | .error message => throw (.configDecode message)

/-- Refuses a reference that is nothing but blanks. -/
def checkReference (reference : String) : Except Error Unit :=
  if Text.trim reference.toList = [] then
    .error (.invalidReference Reference.Fault.empty.message)
  else .ok ()

/-- Tells a step of an exchange. -/
def tell (message : String) (fields : List (String × FieldValue)) : m Unit :=
  Log.emit { level := .info, message, fields }

/-- Stores a package at a target; the target afterwards. -/
def push (target : Target) (reference : String) (package : Package) :
    m (Target × Except Error Unit) := do
  match checkReference reference with
  | .error error => return (target, .error error)
  | .ok () =>
    tell "Pushing eBPF package"
      [("reference", .text reference), ("size", .number package.program.size)]
    match stage reference package with
    | .error error => return (target, .error error)
    | .ok (staged, digest) =>
      let (target, result) ← (Target.memory staged).copy reference target reference
      match result with
      | .error error => return (target, .error error)
      | .ok _ =>
        tell "eBPF package pushed" [("reference", .text reference), ("digest", .text digest)]
        return (target, .ok ())

/-- Fetches a package from a target. -/
def pull (target : Target) (reference : String) : m (Except Error Package) := do
  match checkReference reference with
  | .error error => return .error error
  | .ok () =>
    tell "Pulling eBPF package" [("reference", .text reference)]
    match ← target.take reference reference with
    | .error error => return .error error
    | .ok artifact =>
      let result := do
        let (staged, digest) ← MemoryStore.empty.store reference artifact
        return (← unstage reference staged, digest)
      match result with
      | .error error => return .error error
      | .ok (package, digest) =>
        tell "eBPF package pulled" [("reference", .text reference), ("digest", .text digest),
          ("size", .number package.program.size)]
        return .ok package

end BpfDepot.Exchange
