import BpfDepot.Files
import BpfDepot.Instant
import BpfDepot.Registry

/-! # Hosts

A command runs on a host, which has a file system, a clock, an environment and a
network, and takes what is printed and logged. -/

namespace BpfDepot

/-- A monad that a command runs in. -/
class Host (m : Type → Type) extends Log m, Files m where
  /-- The present. -/
  now : m Instant
  /-- The value of a variable of the environment. -/
  lookup : String → m (Option String)
  /-- The directory of the user. -/
  home? : m (Option String)
  /-- What becomes of requests. -/
  network : m Network
  /-- Prints a text. -/
  print : String → m Unit

/-- Prints a text and ends the line. -/
def Host.printLine {m : Type → Type} [Host m] (text : String) : m Unit :=
  Host.print (text ++ "\n")

end BpfDepot
