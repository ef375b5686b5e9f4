import BpfDepot.Commands

/-! # The program

The program reads its command line and runs the command. It ends with a code: zero if
it has done what it was asked to do, one if the command failed, and two if the command
line was refused. -/

namespace BpfDepot

/-- How the program ends. -/
structure Ending where
  /-- The code that the program returns. -/
  code : Nat
  /-- What it complains of. -/
  complaint : String := ""
  deriving DecidableEq, Repr

namespace Program

/-- What is printed in place of a command that asks for help. -/
def help : String :=
  "Usage: ebpf-oci [OPTIONS] <COMMAND>\n\nCommands:\n"
    ++ String.join (CommandLine.shapes.map fun shape => "  " ++ shape.name ++ "\n")

/-- What is said of a command line that is refused. -/
def refusal : CommandLine.Refusal → String
  | .unknownWord => "unexpected argument"
  | .unknownCommand => "unrecognized subcommand"
  | .missingArgument => "a required argument is missing"
  | .missingCommand => "a subcommand is required"
  | .noValue => "a value is required"
  | .badValue => "invalid value"
  | .repeated => "an argument cannot be used multiple times"
  | .unwantedValue => "unexpected value"
  | .nothing | .help | .version => help

variable {m : Type → Type} [Monad m] [Host m]

/-- Runs the program. -/
def run (words : List String) : m Ending := do
  match CommandLine.read words with
  | .error .help =>
    Host.print help
    return { code := 0 }
  | .error .version =>
    Host.printLine CommandLine.versionLine
    return { code := 0 }
  | .error reason => return { code := 2, complaint := "error: " ++ refusal reason ++ "\n" }
  | .ok invocation =>
    match ← invocation.run.run with
    | .ok () => return { code := 0 }
    | .error failure => return { code := 1, complaint := "Error: " ++ failure.message ++ "\n" }

end Program

end BpfDepot
