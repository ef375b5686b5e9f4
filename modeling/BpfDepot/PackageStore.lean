import BpfDepot.Exchange
import BpfDepot.Host
import BpfDepot.Instant.Text

/-! # The local package store

A package store is a directory. A package lies in it under the digest that it would
be pushed with, and an index binds references to packages, several of them to the
same package if need be. A handle on a store holds the index, which it reads when
the store is opened and writes after every change.

An operation that fails may have changed the handle and the directory before: the
state of the handle outlives the failure. -/

namespace BpfDepot

/-- What the index says of a package under a reference. -/
structure StoredPackage where
  /-- The reference with nothing left out. -/
  reference : String
  /-- The digest of the package. -/
  digest : String
  /-- The bytes of the program and of the configuration. -/
  size : Nat
  /-- What the package says about its program. -/
  info : String
  /-- When the reference was bound. -/
  created : Instant
  /-- The directory of the package. -/
  path : String
  deriving DecidableEq

namespace StoredPackage

/-- Instants in the index. -/
def instantCodec : Json.Codec Instant :=
  .checkedText "an RFC 3339 formatted date and time string" Instant.toText fun text =>
    (Instant.parse text).mapError Instant.Fault.message

/-- The fields of an entry of the index. -/
def codec : Json.Codec StoredPackage :=
  (Json.Codec.record "StoredPackage"
    (.required "reference" .text
    (.required "digest" .text
    (.required "size_bytes" .natural
    (.required "info" .text
    (.required "created_at" instantCodec
    (.required "path" .path .nil))))))).via
    (fun p => (p.reference, p.digest, p.size, p.info, p.created, p.path, ()))
    (fun (reference, digest, size, info, created, path, _) =>
      { reference, digest, size, info, created, path })

end StoredPackage

/-- A handle on a store. -/
structure PackageStore where
  /-- The directory of the store. -/
  directory : String
  /-- The entries by their references. -/
  index : Dictionary StoredPackage
  deriving DecidableEq

/-- Operations on a store, which keep the handle when they fail. -/
abbrev StoreM (m : Type → Type) (α : Type) := ExceptT Error (StateT PackageStore m) α

namespace PackageStore

/-- The index as a document: its entries in order. -/
def indexCodec : Json.Codec (List StoredPackage) :=
  (Json.Codec.record "StoreIndex"
    (.required "packages" (.list StoredPackage.codec) .nil)).via
    (fun entries => (entries, ())) (fun (entries, _) => entries)

/-- The file of the index. -/
def indexPath (directory : String) : String := Path.join directory "index.json"

/-- The directory of the packages with a digest. -/
def packagePath (directory digest : String) : String :=
  Path.join (Path.join directory "sha256") (Digest.digits digest)

/-- The entry that a text refers to. -/
def get? (s : PackageStore) (reference : String) : Option StoredPackage :=
  match Reference.canonical reference with
  | .ok key => s.index.get? key
  | .error _ => none

/-- All entries, in the order of their references. -/
def list (s : PackageStore) : List StoredPackage :=
  s.index.values.mergeSort fun a b => decide (a.reference ≤ b.reference)

/-- The failure to find what a text refers to. -/
def missing (reference : String) : Error := .store ("Package not found: " ++ reference)

variable {m : Type → Type} [Monad m] [Host m]

/-! ## Directories of packages -/

/-- Whether a directory has both files of a package. -/
def isComplete (directory : String) : m Bool := do
  if ← Files.isFile (Path.join directory Package.programName) then
    Files.isFile (Path.join directory Configuration.fileName)
  else return false

/-- Removes what stands at a path, if anything does. -/
def clear (path : String) : ExceptT FileFault m Unit := do
  if ← Files.isPresent (m := m) path then Files.attempt (m := m) (.removeTree path)

/-- Writes a package beside its directory and moves it there. -/
def writePackage (directory : String) (package : Package) : ExceptT FileFault m Unit := do
  let beside := Path.temporary directory
  clear beside
  clear directory
  Files.attempt (m := m) (.createTree beside)
  Files.attempt (m := m) (.write (Path.join beside Package.programName) package.program)
  Files.attempt (m := m) (.write (Path.join beside Configuration.fileName) package.configBytes)
  Files.attempt (m := m) (.rename beside directory)

/-- The package in a directory. -/
def readPackage (directory : String) : ExceptT Error m Package := do
  let file (name : String) : ExceptT Error m ByteArray :=
    Files.explain (Files.attempt (.read (Path.join directory name))) Error.io
  let program ← file Package.programName
  let bytes ← file Configuration.fileName
  match Configuration.decode bytes with
  | .ok config => return { program, config }
  | .error message => throw (.configDecode message)

/-! ## The index -/

/-- The index of a directory. Entries whose directories are gone are left out. -/
def readIndex (directory : String) : ExceptT Error m (Dictionary StoredPackage) := do
  let path := indexPath directory
  if ← Files.isPresent (m := m) path then
    let text ← Files.explain (m := m) (Files.readText path) fun fault =>
      .store ("Failed to read package index " ++ path ++ ": " ++ fault.message)
    match indexCodec.decodeText text with
    | .error message => throw (.store ("Failed to parse package index: " ++ message))
    | .ok entries =>
      let entries ← entries.filterM fun entry => Files.isPresent (m := m) entry.path
      return .ofList (entries.map fun entry => (entry.reference, entry))
  else return {}

/-- Writes the index beside its file and moves it there. -/
def writeIndex (s : PackageStore) : ExceptT Error m Unit := do
  let path := indexPath s.directory
  let beside := Path.temporary path
  let bytes := (indexCodec.encodeLines s.list).toUTF8
  Files.explain (m := m) (Files.attempt (.write beside bytes)) Error.io
  Files.explain (m := m) (Files.attempt (.rename beside path)) fun fault =>
    .store ("Failed to write package index " ++ path ++ ": " ++ fault.message)

/-- Removes the directory of an entry unless an entry of the index has the same
digest. -/
def clearUnused (s : PackageStore) (entry : StoredPackage) : ExceptT Error m Unit := do
  if !s.index.values.any fun other => other.digest = entry.digest then
    Files.explain (m := m) (clear entry.path) fun fault =>
      .store ("Failed to remove package directory " ++ entry.path ++ ": " ++ fault.message)

/-! ## Operations -/

/-- Opens the store in a directory, which is made if it is missing. -/
def openAt (directory : String) : ExceptT Error m PackageStore := do
  Files.explain (m := m) (Files.attempt (.createTree directory)) fun fault =>
    .store ("Failed to create package store directory " ++ directory ++ ": " ++ fault.message)
  return { directory, index := ← readIndex directory }

/-- Takes a step that does not concern the handle. -/
def outside {α : Type} (step : ExceptT Error m α) : StoreM m α := ExceptT.mk (StateT.lift step.run)

/-- The reference that a text stands for, with nothing left out. -/
def keyOf (reference : String) : StoreM m String :=
  match Reference.canonical reference with
  | .ok key => return key
  | .error fault => throw (.invalidReference fault.message)

/-- Changes the index, and then brings the directory into line: what an entry that
was replaced or removed leaves unused is removed, and the index is written. -/
def commit (index : Dictionary StoredPackage) (replaced : Option StoredPackage) :
    StoreM m Unit := do
  modify fun s => { s with index }
  let s ← get
  if let some entry := replaced then outside (clearUnused s entry)
  outside (writeIndex s)

/-- Binds the reference of an entry to it. -/
def bind (entry : StoredPackage) : StoreM m Unit := do
  let index := (← get).index
  commit (index.insert entry.reference entry) (index.get? entry.reference)

/-- Stores a package under a reference. -/
def put (reference : String) (package : Package) : StoreM m StoredPackage := do
  let key ← keyOf reference
  let (_, digest) ← Exchange.stage key package
  let path := packagePath (← get).directory digest
  if !(← outside (isComplete (m := m) path)) then
    outside (Files.explain (writePackage path package) fun fault =>
      .store ("Failed to write package to " ++ path ++ ": " ++ fault.message))
  let entry : StoredPackage := {
    reference := key, digest
    size := package.program.size + package.configBytes.size
    info := package.config.info
    created := ← outside (Host.now (m := m))
    path }
  bind entry
  outside (Log.emit (m := m) {
    level := .debug
    message := "Stored package"
    fields := [("reference", .text entry.reference), ("digest", .text entry.digest)] })
  return entry

/-- The package under a reference. -/
def load (s : PackageStore) (reference : String) : ExceptT Error m Package :=
  match s.get? reference with
  | some entry => readPackage entry.path
  | none => throw (missing reference)

/-- Binds another reference to the package under a reference. -/
def tag (source target : String) : StoreM m StoredPackage := do
  match (← get).get? source with
  | none => throw (missing source)
  | some entry =>
    let entry := { entry with
      reference := ← keyOf target
      created := ← outside (Host.now (m := m)) }
    bind entry
    return entry

/-- Unbinds a reference. -/
def remove (reference : String) : StoreM m Unit := do
  let key ← keyOf reference
  let index := (← get).index
  match index.get? key with
  | some entry => commit (index.erase key) (some entry)
  | none => throw (missing reference)

end PackageStore

end BpfDepot
