import BpfDepot.Settings

/-! # The words of a command line

A command has flags, settings with a value, and positional arguments. Flags and
settings may stand anywhere among the arguments until two dashes end them. What a
word stands for is settled only when the next flag, setting or positional argument
is found, so a fault of the word gives way to that of an unknown word behind it. -/

namespace BpfDepot.CommandLine

/-- Why a command line is refused, or what it asks for in place of a command. -/
inductive Refusal where
  /-- A word that the command does not know. -/
  | unknownWord
  /-- A command that the program does not have. -/
  | unknownCommand
  /-- A positional argument is missing. -/
  | missingArgument
  /-- No command is named, though there are settings. -/
  | missingCommand
  /-- There is neither a command nor a setting. -/
  | nothing
  /-- A value is missing, or empty where it must not be. -/
  | noValue
  /-- A value that its setting does not accept. -/
  | badValue
  /-- A flag or a setting stands twice. -/
  | repeated
  /-- A flag is given a value. -/
  | unwantedValue
  /-- The help is asked for. -/
  | help
  /-- The version is asked for. -/
  | version
  deriving DecidableEq, Repr

/-- What a value must be. -/
inductive Kind where
  /-- Any text. -/
  | text
  /-- Any text but the empty one. -/
  | path
  /-- The name of a layout of log lines. -/
  | logFormat
  deriving DecidableEq, Repr

/-- What a flag is for. -/
inductive Purpose where
  | note
  | help
  | version
  deriving DecidableEq, Repr

/-- A flag with its names. -/
structure Flag where
  name : String
  letter : Option Char := none
  purpose : Purpose := .note
  deriving DecidableEq, Repr

/-- The arguments of a command. -/
structure Grammar where
  flags : List Flag
  /-- The settings with the kinds of their values. -/
  settings : List (String × Kind)
  /-- The kinds of the positional arguments. -/
  positional : List Kind := []
  /-- Whether more arguments like the last one may follow. -/
  repeats : Bool := false
  /-- The words that end the arguments and begin those of a command. -/
  commands : List String := []

/-- A value that has been found and not yet settled. -/
inductive Pending where
  /-- A setting, perhaps with its value. -/
  | setting (name : String) (kind : Kind) (value : Option String)
  /-- A positional argument. -/
  | argument (kind : Kind) (value : String)

/-- The arguments that have been found. -/
structure Found where
  flags : List String := []
  settings : List (String × String) := []
  /-- The positional arguments that have been settled. -/
  arguments : List String := []
  /-- The number of positional arguments, settled or not. -/
  count : Nat := 0
  pending : Option Pending := none
  /-- Whether a value for a setting is due. -/
  valueDue : Bool := false
  /-- Whether two dashes have ended the flags and settings. -/
  ended : Bool := false

/-- Finding arguments, or refusing them. -/
abbrev Finding := Except Refusal

/-- Checks a value. -/
def check (kind : Kind) (value : String) : Finding Unit :=
  match kind with
  | .text => .ok ()
  | .path => if value = "" then .error .noValue else .ok ()
  | .logFormat => if (LogFormat.ofName? value).isSome then .ok () else .error .badValue

namespace Found

/-- Settles a setting. -/
def addSetting (found : Found) (name : String) (kind : Kind) (value : String) : Finding Found := do
  if found.settings.any fun entry => entry.1 = name then throw .repeated
  check kind value
  return { found with settings := found.settings ++ [(name, value)] }

/-- Settles what is pending. -/
def settle (found : Found) : Finding Found := do
  let settled := { found with pending := none }
  match found.pending with
  | none => return settled
  | some (.setting _ _ none) => throw .noValue
  | some (.setting name kind (some value)) => settled.addSetting name kind value
  | some (.argument kind value) =>
    check kind value
    return { settled with arguments := settled.arguments ++ [value] }

/-- Takes a flag. -/
def addFlag (found : Found) (flag : Flag) : Finding Found := do
  let found ← found.settle
  match flag.purpose with
  | .help => throw .help
  | .version => throw .version
  | .note =>
    if found.flags.contains flag.name then throw .repeated
    return { found with flags := found.flags ++ [flag.name], valueDue := false }

/-- Takes the flags that letters behind one dash name. -/
def addLetters (grammar : Grammar) (found : Found) : List Char → Finding Found
  | [] => return found
  | c :: rest => do
    match grammar.flags.find? fun flag => flag.letter = some c with
    | some flag => addLetters grammar (← found.addFlag flag) rest
    | none => throw .unknownWord

/-- Takes what follows two dashes: the name of a flag, or of a setting whose value
may follow behind an equals sign. -/
def addNamed (grammar : Grammar) (found : Found) (word : List Char) : Finding Found := do
  let (name, value) := match Text.cutFirst? '=' word with
    | some (name, value) => (String.ofList name, some (String.ofList value))
    | none => (String.ofList word, none)
  match grammar.flags.find? fun flag => flag.name = name with
  | some flag => if value.isSome then throw .unwantedValue else found.addFlag flag
  | none =>
    match grammar.settings.find? fun entry => entry.1 = name with
    | some (_, kind) =>
      let found ← found.settle
      match value with
      | some value =>
        return { ← found.addSetting name kind value with valueDue := false }
      | none =>
        return { found with pending := some (.setting name kind none), valueDue := true }
    | none => throw .unknownWord

/-- The kind of the next positional argument, if there may be one. -/
def nextKind? (grammar : Grammar) (found : Found) : Option Kind :=
  grammar.positional[found.count]? <|>
    if grammar.repeats then grammar.positional.getLast? else none

/-- Takes a positional argument. -/
def addArgument (grammar : Grammar) (found : Found) (word : String) : Finding Found := do
  match found.nextKind? grammar with
  | some kind =>
    let found ← found.settle
    return { found with pending := some (.argument kind word), count := found.count + 1 }
  | none =>
    if grammar.commands = [] || (found.ended && grammar.commands.contains word) then
      throw .unknownWord
    else throw .unknownCommand

/-- Takes a word that is not the name of a command. -/
def addWord (grammar : Grammar) (found : Found) (word : String) : Finding Found :=
  if found.ended then found.addArgument grammar word
  else
    match word.toList with
    | ['-', '-'] => return { found with ended := true }
    | '-' :: '-' :: rest => found.addNamed grammar rest
    | '-' :: c :: rest => addLetters grammar found (c :: rest)
    | _ =>
      match found.valueDue, found.pending with
      | true, some (.setting name kind _) =>
        return { found with pending := some (.setting name kind (some word)), valueDue := false }
      | _, _ => found.addArgument grammar word

end Found

/-- Finds arguments up to the name of a command; the arguments, and that name with
the words behind it. A word in the place of a value is no such name. -/
def find (grammar : Grammar) (found : Found) :
    List String → Finding (Found × Option (String × List String))
  | [] => return (found, none)
  | word :: rest => do
    if !found.ended && !found.valueDue && grammar.commands.contains word then
      return (found, some (word, rest))
    else find grammar (← found.addWord grammar word) rest

end BpfDepot.CommandLine
