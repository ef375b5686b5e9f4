import BpfDepot.CommandLine.Words

/-! # The command line

The program has eight commands. Two settings, the file of the settings and the
layout of log lines, may stand before the command or among its arguments, where they
count if they stand in both places. -/

namespace BpfDepot

/-- A command with its arguments. -/
inductive Command where
  /-- Stores a program as a package. -/
  | package (program reference info : String)
  /-- Sends a stored package to a registry. -/
  | push (reference : String) (insecure quiet : Bool)
  /-- Fetches a package from a registry and stores it. -/
  | pull (reference : String) (insecure quiet : Bool)
  /-- Lists the stored packages. -/
  | list (quiet : Bool) (format : Option String)
  /-- Shows what is known of a stored package. -/
  | inspect (reference : String)
  /-- Binds another reference to a stored package. -/
  | tag (source target : String)
  /-- Removes references. -/
  | remove (references : List String) (force : Bool)
  /-- Writes the files of a stored package to a directory. -/
  | extract (reference output : String)
  deriving DecidableEq, Repr

/-- What a command line asks for. -/
structure Invocation where
  /-- The file of the settings, if it is not the usual one. -/
  config : Option String
  /-- The layout of log lines. -/
  logFormat : LogFormat
  /-- The command. -/
  command : Command
  deriving DecidableEq, Repr

namespace CommandLine

/-- The name and the version that the program tells. -/
def versionLine : String := "ebpf-oci 0.1.0"

/-- The flag that asks for help. -/
def helpFlag : Flag := { name := "help", letter := some 'h', purpose := .help }

/-- The flag that asks for the version. -/
def versionFlag : Flag := { name := "version", letter := some 'V', purpose := .version }

/-- The flag that asks for less output. -/
def quietFlag : Flag := { name := "quiet", letter := some 'q' }

/-- The flag that asks for an exchange without encryption. -/
def insecureFlag : Flag := { name := "insecure" }

/-- The flag that asks to go on. -/
def forceFlag : Flag := { name := "force", letter := some 'f' }

/-- The settings that every command has. -/
def sharedSettings : List (String × Kind) := [("config", .path), ("log-format", .logFormat)]

/-- The arguments that a command has. -/
structure Shape where
  name : String
  flags : List Flag := []
  settings : List (String × Kind) := []
  positional : List Kind
  repeats : Bool := false
  /-- The command of arguments that are complete. -/
  build : Found → Option Command

namespace Found

/-- Whether a flag has been found. -/
def has (found : Found) (flag : Flag) : Bool := found.flags.contains flag.name

/-- The value of a setting. -/
def setting? (found : Found) (name : String) : Option String :=
  (found.settings.find? fun entry => entry.1 = name).map Prod.snd

end Found

/-- The commands. -/
def shapes : List Shape := [
  { name := "package"
    settings := [("info", .text)]
    positional := [.path, .text]
    build := fun found => match found.arguments with
      | [program, reference] =>
        some (.package program reference ((found.setting? "info").getD ""))
      | _ => none },
  { name := "push"
    flags := [insecureFlag, quietFlag]
    positional := [.text]
    build := fun found => match found.arguments with
      | [reference] => some (.push reference (found.has insecureFlag) (found.has quietFlag))
      | _ => none },
  { name := "pull"
    flags := [insecureFlag, quietFlag]
    positional := [.text]
    build := fun found => match found.arguments with
      | [reference] => some (.pull reference (found.has insecureFlag) (found.has quietFlag))
      | _ => none },
  { name := "list"
    flags := [quietFlag]
    settings := [("format", .text)]
    positional := []
    build := fun found => some (.list (found.has quietFlag) (found.setting? "format")) },
  { name := "inspect"
    positional := [.text]
    build := fun found => match found.arguments with
      | [reference] => some (.inspect reference)
      | _ => none },
  { name := "tag"
    positional := [.text, .text]
    build := fun found => match found.arguments with
      | [source, target] => some (.tag source target)
      | _ => none },
  { name := "rm"
    flags := [forceFlag]
    positional := [.text]
    repeats := true
    build := fun found => match found.arguments with
      | [] => none
      | references => some (.remove references (found.has forceFlag)) },
  { name := "export"
    positional := [.text, .path]
    build := fun found => match found.arguments with
      | [reference, output] => some (.extract reference output)
      | _ => none }]

/-- The word that asks for help on the commands that follow it. -/
def helpCommand : String := "help"

/-- The arguments before a command. -/
def grammar : Grammar where
  flags := [helpFlag, versionFlag]
  settings := sharedSettings
  commands := helpCommand :: shapes.map Shape.name

/-- The arguments of a command. -/
def Shape.grammar (shape : Shape) : Grammar where
  flags := helpFlag :: shape.flags
  settings := sharedSettings ++ shape.settings
  positional := shape.positional
  repeats := shape.repeats

/-- Whether help can be given on the words behind the word for it: there is at most
one, the name of a command. -/
def hasHelp : List String → Bool
  | [] => true
  | [word] => grammar.commands.contains word
  | _ => false

/-- Reads the arguments of a command, which must be complete. -/
def readCommand (shape : Shape) (words : List String) : Finding (Found × Command) := do
  let (found, _) ← find shape.grammar {} words
  let found ← found.settle
  match shape.build found with
  | some command => return (found, command)
  | none => throw .missingArgument

/-- Reads a command line. What stands before the command is settled only when the
command has been read. -/
def read (words : List String) : Finding Invocation := do
  match ← find grammar {} words with
  | (before, none) =>
    let before ← before.settle
    throw (if before.settings = [] then .nothing else .missingCommand)
  | (before, some (name, rest)) =>
    match shapes.find? fun shape => shape.name = name with
    | none => throw (if hasHelp rest then .help else .unknownCommand)
    | some shape =>
      let (found, command) ← readCommand shape rest
      let before ← before.settle
      let shared (name : String) := found.setting? name <|> before.setting? name
      return {
        config := shared "config"
        logFormat := ((shared "log-format").bind LogFormat.ofName?).getD .text
        command }

end CommandLine

end BpfDepot
