import BpfDepot.Proofs.Log
import BpfDepot.Target

/-! # Copying to a memory store

A copy to a memory store has one outcome, whatever has been logged before it: it fetches an
artifact from its source and stores it (`Target.gives_copy`).
-/

namespace BpfDepot.Target

variable {source : Target} {sourceReference reference digest : String} {s after : MemoryStore}

/-- The memory store after a copy to it, and the digest of the artifact. -/
def delivery (source : Target) (sourceReference : String) (s : MemoryStore) (reference : String) :
    Except Error (MemoryStore × String) := do
  let artifact ← source.fetch sourceReference
  s.store (copyReference sourceReference reference) artifact

/-- What a copy to a memory store gives back. A copy that fails leaves the store as it was. -/
def delivered (s : MemoryStore) : Except Error (MemoryStore × String) → Target × Except Error String
  | .ok (after, digest) => (.memory after, .ok digest)
  | .error error => (.memory s, .error error)

theorem delivery_eq_ok_iff : source.delivery sourceReference s reference = .ok (after, digest) ↔
    ∃ artifact, source.fetch sourceReference = .ok artifact ∧
      s.store (copyReference sourceReference reference) artifact = .ok (after, digest) := by
  unfold delivery
  cases source.fetch sourceReference with
  | error error => exact ⟨nofun, nofun⟩
  | ok artifact =>
      constructor
      · exact fun stored => ⟨artifact, rfl, stored⟩
      · rintro ⟨_, ⟨⟩, stored⟩
        exact stored

theorem delivered_eq_ok_iff {outcome : Except Error (MemoryStore × String)} {target : Target} :
    delivered s outcome = (target, .ok digest) ↔
      ∃ after, target = .memory after ∧ outcome = .ok (after, digest) := by
  cases outcome with
  | error error => exact ⟨nofun, nofun⟩
  | ok done =>
      constructor
      · rintro ⟨⟩
        exact ⟨_, rfl, rfl⟩
      · rintro ⟨_, rfl, ⟨⟩⟩
        rfl

/-- **Copying** to a memory store is fetching and storing. -/
theorem gives_copy (source : Target) (sourceReference : String) (s : MemoryStore)
    (reference : String) : Logged.Gives (source.copy sourceReference (.memory s) reference)
      (delivered s (source.delivery sourceReference s reference)) := by
  unfold copy take delivery
  cases source.fetch sourceReference with
  | error error => exact (Logged.Gives.pure (Except.error error)).bind (.pure _)
  | ok artifact =>
      refine ((Logged.Gives.emit _).bind (.pure (Except.ok artifact))).bind ?_
      change Logged.Gives (pure _) (delivered s (s.store _ artifact))
      cases s.store (copyReference sourceReference reference) artifact <;> exact .pure _

end BpfDepot.Target
