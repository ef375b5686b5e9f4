import BpfDepot.FileTree
import BpfDepot.Host

/-! # A host inside a state

A world is a host whose file system is a tree, whose clock is a function, and which
keeps what is printed and logged. Its calls to the file system can be broken off
one by one. -/

namespace BpfDepot

/-- How a call to the file system is broken off. -/
structure Interruption where
  /-- The failure that is reported. -/
  fault : FileFault
  /-- The number of steps before it. -/
  steps : Nat
  deriving DecidableEq, Repr

/-- The state of a host. -/
structure World where
  /-- The file system. -/
  tree : FileTree := {}
  /-- The working directory. -/
  working : Location := []
  /-- What the clock says each time it is read. -/
  clock : Nat → Instant
  /-- How often the clock has been read. -/
  readings : Nat := 0
  /-- The environment. -/
  environment : String → Option String := fun _ => none
  /-- The directory of the user. -/
  home : Option String := none
  /-- What becomes of requests. -/
  network : Network := .unreachable
  /-- What has been printed. -/
  output : String := ""
  /-- What has been logged. -/
  events : List Event := []
  /-- For each of the next calls to the file system, whether it is broken off. -/
  interruptions : List (Option Interruption) := []

/-- Computations on a world. -/
abbrev WorldM := StateM World

namespace World

/-- Makes a call to the file system, which is broken off if that is its lot. -/
def call {α : Type} (request : FileCall α) : WorldM (Except FileFault α) := fun world =>
  let run (world : World) :=
    let (tree, result) := world.tree.call world.working request
    (result, { world with tree })
  match world.interruptions with
  | [] => run world
  | none :: rest => run { world with interruptions := rest }
  | some interruption :: rest =>
    (.error interruption.fault, { world with
      tree := world.tree.brokenOff world.working interruption.steps request
      interruptions := rest })

instance : Host WorldM where
  emit event := modify fun world => { world with events := world.events ++ [event] }
  kind? path := return (← get).tree.kind? (← get).working path
  call := call
  now := modifyGet fun world =>
    (world.clock world.readings, { world with readings := world.readings + 1 })
  lookup name := return (← get).environment name
  home? := return (← get).home
  network := return (← get).network
  print text := modify fun world => { world with output := world.output ++ text }

end World

end BpfDepot
