import BpfDepot.Host
import BpfDepot.Settings.Document

/-! # Where settings come from

The program has a directory in that of the user, with a file for the settings and
the usual package store. The settings are those of a file, if there is one, with what
the environment adds. -/

namespace BpfDepot.Settings

/-- The directory of the program in the directory of the user, or in the working
directory if the user has none. -/
def programDirectory (home : Option String) : String :=
  home.elim ".ebpf-oci" fun home => Path.join home ".ebpf-oci"

/-- The usual file of the settings. -/
def usualFile (home : Option String) : String := Path.join (programDirectory home) "config.yaml"

/-- The directory of the package store. -/
def storePath (settings : Settings) (home : Option String) : String :=
  settings.storeDirectory.getD (Path.join (programDirectory home) "packages")

variable {m : Type → Type} [Monad m] [Host m]

/-- Reads a file of settings. -/
def load (path : String) : ExceptT Error m Settings := do
  let text ← Files.explain (m := m) (Files.readText path) fun fault =>
    .config ("Failed to read " ++ path ++ ": " ++ fault.message)
  match ofDocument text with
  | .ok settings => return settings
  | .error message => throw (.serialization message)

/-- Adds what the environment says. -/
def withEnvironment (settings : Settings) : ExceptT Error m Settings := do
  let registries ← Host.lookup (m := m) registriesVariable
  let timeout ← Host.lookup (m := m) timeoutVariable
  let (settings, result) := settings.applyVariables fun name =>
    if name = registriesVariable then registries
    else if name = timeoutVariable then timeout
    else none
  match result with
  | .ok () => return settings
  | .error error => throw error

/-- The settings of a given file, or of the usual file if it is there, with what the
environment says. -/
def establish (file : Option String) : ExceptT Error m Settings := do
  match file with
  | some path => withEnvironment (← load path)
  | none =>
    let path := usualFile (← Host.home? (m := m))
    if ← Files.isPresent (m := m) path then withEnvironment (← load path)
    else withEnvironment {}

end BpfDepot.Settings
