import BpfDepot.Error
import BpfDepot.Text.Blank
import BpfDepot.Text.Cut

/-! # Settings

The settings say which registries are talked to without encryption, how long an
exchange may take and where packages are stored. They come from a file, and two
variables of the environment add to them. -/

namespace BpfDepot

/-- Which registries to trust, how long to wait and where to store. -/
structure Settings where
  /-- The registries that are talked to without encryption. -/
  insecureRegistries : List String := []
  /-- The limit of an exchange in seconds, where nothing and zero mean no limit. -/
  timeoutSeconds : Option Nat := none
  /-- The directory of the package store, if it is not the usual one. -/
  storeDirectory : Option String := none
  deriving DecidableEq, Repr

namespace Settings

/-- The variable that lists registries, with commas between them. -/
def registriesVariable : String := "EBPF_OCI_INSECURE_REGISTRIES"

/-- The variable that sets the limit of an exchange. -/
def timeoutVariable : String := "EBPF_OCI_TIMEOUT_SECS"

/-- The registries of a list with commas between them. -/
def registriesOf (list : String) : List String :=
  ((Text.pieces ',' list.toList).map Text.trim).filterMap fun piece =>
    if piece = [] then none else some (String.ofList piece)

/-- Adds a registry at the end of a list that lacks it. -/
def addRegistry (registries : List String) (registry : String) : List String :=
  if registry ∈ registries then registries else registries ++ [registry]

/-- Reads a number of 64 bits: decimal digits, with an optional plus sign. -/
def seconds? (text : List Char) : Option Nat :=
  let digits := match text with
    | '+' :: rest => rest
    | _ => text
  if digits = [] || !digits.all Char.isDigit then none
  else
    let n := digits.foldl (fun n c => 10 * n + (c.toNat - '0'.toNat)) 0
    if n < Nat.pow 2 64 then some n else none

/-- Adds the registries of the variable that lists them. -/
def withRegistries (settings : Settings) (list : Option String) : Settings :=
  { settings with
    insecureRegistries := (list.elim [] registriesOf).foldl addRegistry settings.insecureRegistries }

/-- Sets the limit from its variable. -/
def withTimeout (settings : Settings) (value : Option String) : Except Error Settings :=
  match value with
  | none => .ok settings
  | some text =>
    match seconds? (Text.trim text.toList) with
    | some n => .ok { settings with timeoutSeconds := some n }
    | none => .error (.config (timeoutVariable
        ++ " must be a whole number of seconds, got '" ++ text ++ "'"))

/-- Adds what the environment says, the registries first. What was added before a
failure stays. -/
def applyVariables (settings : Settings) (lookup : String → Option String) :
    Settings × Except Error Unit :=
  let settings := settings.withRegistries (lookup registriesVariable)
  match settings.withTimeout (lookup timeoutVariable) with
  | .ok settings => (settings, .ok ())
  | .error error => (settings, .error error)

/-- The limit of an exchange, if there is one. -/
def timeout? (settings : Settings) : Option Nat :=
  settings.timeoutSeconds.filter (0 < ·)

/-- Whether a registry is talked to without encryption. -/
def isInsecure (settings : Settings) (registry : String) : Bool :=
  registry ∈ settings.insecureRegistries

/-- Makes a registry one that is talked to without encryption. -/
def trust (settings : Settings) (registry : String) : Settings :=
  { settings with insecureRegistries := addRegistry settings.insecureRegistries registry }

end Settings

/-- How log lines are laid out. -/
inductive LogFormat where
  /-- For a reader. -/
  | text
  /-- One document for each line. -/
  | json
  deriving DecidableEq, Repr, Inhabited

namespace LogFormat

/-- The name of a layout. -/
def name : LogFormat → String
  | .text => "text"
  | .json => "json"

/-- The layout with a name. -/
def ofName? (text : String) : Option LogFormat :=
  if text = "text" then some .text else if text = "json" then some .json else none

/-- Says that no layout has a name. -/
def unknown (text : String) : String :=
  "unknown log format: '" ++ text ++ "' (supported: text, json)"

end LogFormat

end BpfDepot
