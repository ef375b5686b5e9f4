import BpfDepot.MemoryStore
import BpfDepot.Registry

/-! # Where artifacts are kept

A target is a place that artifacts are fetched from and stored in: a memory store
or a registry. Copying fetches from one target and stores in another. -/

namespace BpfDepot

/-- A place for artifacts. -/
inductive Target where
  /-- A store in memory. -/
  | memory (store : MemoryStore)
  /-- The registries that a client reaches. -/
  | registry (client : Registry)

namespace Target

variable {m : Type → Type} [Monad m] [Log m]

/-- The artifact under a reference. -/
def fetch (target : Target) (reference : String) : Except Error Artifact :=
  match target with
  | .memory store => store.fetch reference
  | .registry client => client.fetch reference

/-- Stores an artifact under a reference; the target afterwards, and the digest of
the artifact. -/
def store (target : Target) (reference : String) (artifact : Artifact) :
    m (Target × Except Error String) :=
  match target with
  | .memory store =>
    return match store.store reference artifact with
      | .ok (store, digest) => (.memory store, .ok digest)
      | .error error => (target, .error error)
  | .registry client => return (target, ← client.store reference artifact)

/-- The artifact under a reference, on its way to another reference. -/
def take (source : Target) (sourceReference reference : String) : m (Except Error Artifact) := do
  match source.fetch sourceReference with
  | .error error => return .error error
  | .ok artifact =>
    Log.emit {
      level := .debug
      message := "Copying artifact"
      fields := [("source", .text sourceReference), ("destination", .text reference),
        ("layers", .number artifact.layers.length), ("size", .number artifact.size)] }
    return .ok artifact

/-- The reference of a copy, which is that of the source unless it has its own. -/
def copyReference (source destination : String) : String :=
  if destination = "" then source else destination

/-- Copies an artifact; the destination afterwards, and the digest of the
artifact. -/
def copy (source : Target) (sourceReference : String) (destination : Target)
    (destinationReference : String) : m (Target × Except Error String) := do
  let reference := copyReference sourceReference destinationReference
  match ← source.take sourceReference reference with
  | .error error => return (destination, .error error)
  | .ok artifact => destination.store reference artifact

end Target

end BpfDepot
