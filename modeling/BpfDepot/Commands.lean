import BpfDepot.CommandLine
import BpfDepot.Listing
import BpfDepot.Settings.File

/-! # The commands

Every command opens the package store of the settings, does its work and prints what
it has done. A command that fails says why, with the message of an operation or in
words of its own, and what it printed before stays. -/

namespace BpfDepot

/-- Why a command failed. -/
inductive Failure where
  /-- An operation failed. -/
  | error (cause : Error)
  /-- The command says why in its own words. -/
  | text (message : String)
  deriving DecidableEq, Repr

/-- The message of a failure. -/
def Failure.message : Failure → String
  | .error cause => cause.message
  | .text message => message

namespace Command

variable {m : Type → Type} [Monad m] [Host m] {α : Type}

/-- The steps of a command. -/
abbrev Run (m : Type → Type) (α : Type) := ExceptT Failure m α

/-- Takes a step that cannot fail. -/
def always (step : m α) : Run m α := ExceptT.lift step

/-- Takes an operation as a step of a command. -/
def operation (step : ExceptT Error m α) : Run m α :=
  ExceptT.mk do return (← step.run).mapError .error

/-- Takes a call to the file system as a step of a command, with words for its
failure. -/
def calling (request : FileCall α) (word : FileFault → String) : Run m α :=
  ExceptT.mk do return (← Files.call request).mapError fun fault => .text (word fault)

/-- Prints a line. -/
def printLine (line : String) : Run m Unit := always (Host.printLine line)

/-- Opens the package store of the settings. -/
def openStore (settings : Settings) : Run m PackageStore := do
  let home ← always (Host.home? (m := m))
  operation (PackageStore.openAt (settings.storePath home))

/-- Takes an operation on a store, which is not needed afterwards. -/
def onStore (store : PackageStore) (step : StoreM m α) : Run m α :=
  operation (ExceptT.mk do return (← step.run.run store).1)

/-- The settings under which a registry is reached. With the flag, the registry of
the reference is talked to without encryption. -/
def trusting (settings : Settings) (reference : String) (insecure : Bool) :
    Except Error Settings := do
  if insecure then
    let parsed ← Registry.parse reference
    return settings.trust parsed.registry
  else return settings

/-- The registries that are reached under the settings. -/
def openRegistry (settings : Settings) (reference : String) (insecure : Bool) :
    Run m Registry := do
  let settings ← operation (m := m) (liftM (trusting settings reference insecure))
  let username ← always (Host.lookup (m := m) Credentials.usernameVariable)
  let password ← always (Host.lookup (m := m) Credentials.passwordVariable)
  let credentials := Credentials.ofVariables fun name =>
    if name = Credentials.usernameVariable then username
    else if name = Credentials.passwordVariable then password
    else none
  return { settings, credentials, network := ← always (Host.network (m := m)) }

/-- What is said of a package that has come into the store. -/
def arrival (entry : StoredPackage) : String :=
  entry.reference ++ " (" ++ Digest.short entry.digest ++ ", " ++ Report.size entry.size ++ ")"

/-- Stores the program in a file. -/
def runPackage (settings : Settings) (program reference info : String) : Run m Unit := do
  let bytes ← calling (.read program) fun fault =>
    "Failed to read " ++ program ++ ": " ++ fault.message
  let store ← openStore settings
  let entry ← onStore store (PackageStore.put reference { program := bytes, config := { info } })
  printLine ("Packaged: " ++ arrival entry)

/-- Sends a stored package to its registry. -/
def runPush (settings : Settings) (reference : String) (insecure quiet : Bool) : Run m Unit := do
  let store ← openStore settings
  let stored ← ExceptT.mk do
    match ← (store.load (m := m) reference).run with
    | .ok stored => return .ok stored
    | .error error => return .error (.text ("Package '" ++ reference
        ++ "' not available locally (" ++ error.message ++ "). Package or pull it first."))
  if !quiet then printLine ("Pushing " ++ reference ++ "...")
  let registry ← openRegistry settings reference insecure
  operation (ExceptT.mk do return (← Exchange.push (.registry registry) reference stored).2)
  printLine (if quiet then reference else "Pushed: " ++ reference)

/-- Fetches a package from its registry and stores it. -/
def runPull (settings : Settings) (reference : String) (insecure quiet : Bool) : Run m Unit := do
  let store ← openStore settings
  let registry ← openRegistry settings reference insecure
  if !quiet then printLine ("Pulling " ++ reference ++ "...")
  let pulled ← operation (ExceptT.mk (Exchange.pull (.registry registry) reference))
  let entry ← onStore store (PackageStore.put reference pulled)
  printLine (if quiet then entry.digest else "Pulled: " ++ arrival entry)

/-- The rows of entries, each with its age when its turn comes. -/
def rows (entries : List StoredPackage) : Run m (List Row) :=
  entries.mapM fun entry => do return .ofStored (← always (Host.now (m := m))) entry

/-- Lists the stored packages. -/
def runList (settings : Settings) (quiet : Bool) (format : Option String) : Run m Unit := do
  let store ← openStore settings
  if quiet then store.list.forM fun entry => printLine entry.reference
  else
    let rows ← rows store.list
    match format with
    | some format => rows.forM fun row => printLine (row.line format)
    | none => printLine (Row.table rows).render

/-- Shows what is known of a stored package. -/
def runInspect (settings : Settings) (reference : String) : Run m Unit := do
  let store ← openStore settings
  match store.get? reference with
  | some entry => printLine entry.details.toLines
  | none => throw (.text ("Package not found: " ++ reference))

/-- Binds another reference to a stored package. -/
def runTag (settings : Settings) (source target : String) : Run m Unit := do
  let store ← openStore settings
  let entry ← onStore store (PackageStore.tag source target)
  printLine ("Tagged " ++ source ++ " as " ++ entry.reference)

/-- Removes references one after the other; the messages of those that cannot be
removed, unless they are to be passed over. -/
def removeAll (force : Bool) : List String → PackageStore → m (List String)
  | [], _ => return []
  | reference :: rest, store => do
    let (result, store) ← (PackageStore.remove (m := m) reference).run.run store
    match result with
    | .ok () =>
      Host.printLine ("Removed: " ++ reference)
      removeAll force rest store
    | .error error =>
      let messages ← removeAll force rest store
      return if force then messages else (reference ++ ": " ++ error.message) :: messages

/-- Removes references. -/
def runRemove (settings : Settings) (references : List String) (force : Bool) :
    Run m Unit := do
  let store ← openStore settings
  let messages ← always (removeAll (m := m) force references store)
  if messages ≠ [] then
    throw (.text ("Failed to remove package(s):\n" ++ "\n".intercalate messages))

/-- Writes the files of a package to a directory. -/
def writeFiles (stored : Package) (directory : String) : Run m Unit := do
  calling (.createTree directory) fun fault =>
    "Failed to create " ++ directory ++ ": " ++ fault.message
  calling (.write (Path.join directory Package.programName) stored.program) FileFault.message
  calling (.write (Path.join directory Configuration.fileName) stored.config.lines.toUTF8)
    FileFault.message

/-- Writes the files of a stored package to a directory. -/
def runExtract (settings : Settings) (reference output : String) : Run m Unit := do
  let store ← openStore settings
  let stored ← operation (store.load reference)
  writeFiles stored output
  printLine ("Exported " ++ reference ++ " to " ++ output)

/-- Runs a command under settings. -/
def run (settings : Settings) : Command → Run m Unit
  | .package program reference info => runPackage settings program reference info
  | .push reference insecure quiet => runPush settings reference insecure quiet
  | .pull reference insecure quiet => runPull settings reference insecure quiet
  | .list quiet format => runList settings quiet format
  | .inspect reference => runInspect settings reference
  | .tag source target => runTag settings source target
  | .remove references force => runRemove settings references force
  | .extract reference output => runExtract settings reference output

end Command

/-- Runs what a command line asks for. -/
def Invocation.run {m : Type → Type} [Monad m] [Host m] (invocation : Invocation) :
    ExceptT Failure m Unit := do
  let settings ← Command.operation (Settings.establish (m := m) invocation.config)
  let home ← Command.always (Host.home? (m := m))
  Command.always (Log.emit (m := m) {
    level := .debug
    message := "Loaded configuration"
    fields := [("store_dir", .text (settings.storePath home)),
      ("insecure", .text (Text.quotedList settings.insecureRegistries))] })
  invocation.command.run settings

end BpfDepot
