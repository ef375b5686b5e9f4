import BpfDepot.Proofs.Exchange.Parts
import BpfDepot.Proofs.PackageStore.Operation
import BpfDepot.Proofs.Target

/-! # Digests name packages

A package has one digest, whoever states it: every stage of the package, a copy of the stage
to a memory store, the manifest that is found there, and the entry of the package in a local
store (`Package.NamedBy`). Where digests tell byte strings apart, packages with the same
digest are the same (`Package.digest_faithful`).
-/

namespace BpfDepot

open Logged (Gives)

-- nothing here depends on what the bytes of a configuration and the digests are
attribute [local irreducible] Package.configBytes Digest.ofBytes

variable {reference digest : String} {p : Package} {staged store : MemoryStore} {target : Target}

namespace Exchange

/-- What is copied from the stage of a package has its digest and its manifest. -/
theorem of_gives_copy {reported : String} (onto : stage reference p = .ok (staged, digest))
    (copied : Gives ((Target.memory staged).copy reference (.memory store) reference)
      (target, .ok reported)) :
    reported = p.digest ∧
      ∃ after, target = .memory after ∧ after.manifest? reference = some p.manifest := by
  have given := (Target.gives_copy _ reference store reference).unique copied
  obtain ⟨after, rfl, delivered⟩ := Target.delivered_eq_ok_iff.mp given
  obtain ⟨artifact, fetched, stored⟩ := Target.delivery_eq_ok_iff.mp delivered
  have same : Target.copyReference reference reference = reference := ite_id reference
  rw [same] at stored
  obtain ⟨-, rfl, rfl⟩ := MemoryStore.store_eq_ok_iff.mp stored
  have listed := (MemoryStore.fetch_eq_ok_iff.mp fetched).1
  rw [manifest?_of_stage_ok onto] at listed
  have manifest : p.manifest = artifact.manifest := Option.some.inj listed
  refine ⟨congrArg Manifest.digest manifest.symm, _, rfl, ?_⟩
  rw [MemoryStore.manifest?_record, if_pos rfl, manifest]

/-- A push that succeeds has copied the stage of its package. -/
theorem of_gives_push (pushed : Gives (push (.memory store) reference p) (target, .ok ())) :
    ∃ staged, stage reference p = .ok (staged, p.digest) ∧
      Gives ((Target.memory staged).copy reference (.memory store) reference)
        (target, .ok p.digest) := by
  obtain ⟨staged, onto⟩ := stage_eq reference p
  obtain ⟨⟨other, result⟩, copied⟩ :
      ∃ left, Gives ((Target.memory staged).copy reference (.memory store) reference) left :=
    ⟨_, Target.gives_copy _ _ _ _⟩
  cases accepted : checkReference reference with
  | error error =>
      unfold push at pushed
      rw [accepted] at pushed
      exact nomatch Gives.unique (.pure (Target.memory store, Except.error error)) pushed
  | ok _ =>
      obtain ⟨rfl, same⟩ := Prod.mk.inj ((gives_push accepted onto copied).unique pushed)
      cases result with
      | error error => cases same
      | ok reported =>
          obtain ⟨rfl, -⟩ := of_gives_copy onto copied
          exact ⟨staged, onto, copied⟩

/-- A package is pushed to a memory store, if its own bytes are told apart by their digests. -/
theorem exists_gives_push (told : Digest.TellsApart (· ∈ p.artifact.contents))
    (accepted : checkReference reference = .ok ()) (store : MemoryStore) :
    ∃ target, Gives (push (.memory store) reference p) (target, .ok ()) := by
  obtain ⟨staged, onto⟩ := stage_eq reference p
  have copied := Target.gives_copy (.memory staged) reference store reference
  have delivered : (Target.memory staged).delivery reference store reference =
      .ok ((store.ingest p.artifact.blobs).record reference p.artifact.manifest, p.digest) := by
    refine Target.delivery_eq_ok_iff.mpr ⟨p.artifact, fetch_of_stage told onto, ?_⟩
    have same : Target.copyReference reference reference = reference := ite_id reference
    rw [same]
    exact store_artifact store reference p
  rw [delivered] at copied
  exact ⟨_, gives_push accepted onto copied⟩

end Exchange

/-! ## The digest of a package -/

/-- A package has one digest, whoever states it. -/
structure Package.NamedBy (p : Package) (digest : String) : Prop where
  /-- Every stage of the package has it, whatever the reference. -/
  staged : ∀ reference, ∃ staged, Exchange.stage reference p = .ok (staged, digest)
  /-- It is reported when a stage of the package is copied to a memory store, and it is the
  digest of the manifest that is then found there. -/
  copied : ∀ reference staged stated store target reported,
    Exchange.stage reference p = .ok (staged, stated) →
    Gives ((Target.memory staged).copy reference (.memory store) reference)
      (target, .ok reported) →
    reported = digest ∧ ∃ after manifest, target = .memory after ∧
      after.manifest? reference = some manifest ∧ manifest.digest = digest
  /-- A push that succeeds is such a copy. -/
  pushed : ∀ reference store target,
    Gives (Exchange.push (.memory store) reference p) (target, .ok ()) →
    ∃ staged, Exchange.stage reference p = .ok (staged, digest) ∧
      Gives ((Target.memory staged).copy reference (.memory store) reference)
        (target, .ok digest)
  /-- A local store that takes the package has it in the entry. -/
  recorded : ∀ reference s w entry s' w',
    PackageStore.Operates (PackageStore.put reference p) s w (.ok entry) s' w' →
    entry.digest = digest ∧ s'.get? reference = some entry

theorem Package.namedBy_digest (p : Package) : p.NamedBy p.digest where
  staged := fun reference => Exchange.stage_eq reference p
  copied := by
    intro reference staged stated store target reported onto copied
    obtain ⟨same, after, moved, manifest⟩ := Exchange.of_gives_copy onto copied
    exact ⟨same, after, p.manifest, moved, manifest, rfl⟩
  pushed := fun _ _ _ pushed => Exchange.of_gives_push pushed
  recorded := by
    intro reference s w entry s' w' stored
    obtain ⟨key, v, u, events, canonical, -, rfl, rfl, -, -⟩ := PackageStore.of_put_ok stored
    refine ⟨rfl, ?_⟩
    unfold PackageStore.get?
    rw [canonical]
    exact Dictionary.get?_insert_self _ _ _

/-- **Digests are faithful.** Whoever states the digest of a package states the same one, and
a push to a memory store gets to stating it, if digests tell the bytes of the package apart.
Packages with the same digest are the same, if digests tell their parts apart. -/
theorem Package.digest_faithful (p q : Package) :
    p.NamedBy p.digest ∧
    (Digest.TellsApart (· ∈ p.artifact.contents) → ∀ reference store,
      Exchange.checkReference reference = .ok () →
        ∃ target, Gives (Exchange.push (.memory store) reference p) (target, .ok ())) ∧
    (Told [p, q] → ∀ first second staged other digest,
      Exchange.stage first p = .ok (staged, digest) →
      Exchange.stage second q = .ok (other, digest) → p = q) := by
  refine ⟨p.namedBy_digest, fun told reference store accepted =>
    Exchange.exists_gives_push told accepted store, ?_⟩
  intro told first second staged other digest here there
  obtain ⟨-, rfl⟩ := Exchange.of_stage_ok here
  obtain ⟨-, same⟩ := Exchange.of_stage_ok there
  exact eq_of_digest_eq told List.mem_cons_self (List.mem_cons_of_mem _ List.mem_cons_self) same

/-- A package whose program is its configuration is pushed, and the package that has the same
digest on a stage under another reference is the same package. -/
theorem Package.digest_faithful_document :
    let p : Package :=
      { program := "\x7b\"info\":\"probe\"\x7d".toUTF8, config := { info := "probe" } }
    let q : Package := { program := p.configBytes, config := p.config }
    p.NamedBy p.digest ∧
    Digest.TellsApart (· ∈ p.artifact.contents) ∧
    (∃ target, Gives (Exchange.push (.memory .empty) "probe" p) (target, .ok ())) ∧
    Told [p, q] ∧ (∃ staged other, Exchange.stage "probe" p = .ok (staged, p.digest) ∧
      Exchange.stage "other:v1" q = .ok (other, p.digest)) ∧ p = q := by
  intro p q
  have document : q = p := by
    have bytes : p.configBytes = p.program := by decide +kernel
    exact congrArg (Package.mk · p.config) bytes
  have apart : Digest.TellsApart (· ∈ p.artifact.contents) := by
    have only (bytes : ByteArray) (member : bytes ∈ p.artifact.contents) : bytes = p.program :=
      (List.mem_pair.mp member).elim (fun same => same.trans (congrArg program document)) id
    exact fun first second here there _ => (only first here).trans (only second there).symm
  have told : Told [p, q] := told_of_only fun r member =>
    (List.mem_pair.mp member).elim id fun same => same.trans document
  have accepted : Exchange.checkReference "probe" = .ok () := rfl
  clear_value p
  obtain ⟨named, pushed, injective⟩ := digest_faithful p q
  obtain ⟨staged, here⟩ := named.staged "probe"
  obtain ⟨other, there⟩ := named.staged "other:v1"
  have beside : Exchange.stage "other:v1" q = .ok (other, p.digest) := by rw [document, there]
  exact ⟨named, apart, pushed apart "probe" .empty accepted, told,
    ⟨staged, other, here, beside⟩, injective told _ _ _ _ _ here beside⟩

end BpfDepot
