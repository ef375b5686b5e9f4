import BpfDepot.Proofs.Exchange.Interleaving

/-! # What a pull makes of an artifact

A pull takes the blobs of an artifact onto an empty stage one after the other, so a title gives
the last blob that has it (`MemoryStore.getByName?_ingest`). The blobs come from one
store, where a digest names one byte string, so none of them replaces another one
(`MemoryStore.get?_ingest_of_each`). What is pulled is the package of the last blob with the
title of a program and the last one with the title of a configuration, whatever else the
artifact has (`Exchange.pull_assembles`).
-/

namespace BpfDepot

open Logged

namespace Artifact

/-- The last blob with a title, the configuration being before the layers. -/
def titled? (a : Artifact) (name : String) : Option (Descriptor × ByteArray) :=
  a.blobs.reverse.find? fun blob => blob.1.title? = some name

/-- The package that an artifact is under a reference, if it passes its check and has both files
of a package. -/
def assemble (a : Artifact) (reference : String) : Except Error Package := do
  a.verify
  match a.titled? Package.programName, a.titled? Configuration.fileName with
  | none, _ => throw (.missingEntry Package.programName reference)
  | some _, none => throw (.missingEntry Configuration.fileName reference)
  | some (_, program), some (_, bytes) =>
    match Configuration.decode bytes with
    | .ok config => return { program, config }
    | .error message => throw (.configDecode message)

theorem mem_of_titled? {a : Artifact} {name : String} {blob : Descriptor × ByteArray}
    (last : a.titled? name = some blob) : blob ∈ a.blobs :=
  List.mem_reverse.mp (List.mem_of_find?_eq_some last)

end Artifact

namespace MemoryStore

variable {s t : MemoryStore} {a : Artifact} {blobs : List (Descriptor × ByteArray)}

/-! ## Blobs of one store -/

theorem Holds.each (holds : s.Holds a) :
    ∀ blob ∈ a.blobs, s.blobs.get? blob.1.digest = some blob.2 := by
  refine List.forall_mem_cons.mpr ⟨holds.1, ?_⟩
  exact fun _ member => (List.forall₂_iff_zip.mp holds.2).2 member

/-- Blobs that come from one store do not replace one another. -/
theorem get?_ingest_of_found (each : ∀ blob ∈ blobs, s.blobs.get? blob.1.digest = some blob.2)
    {digest : String} {bytes : ByteArray} (there : s.blobs.get? digest = some bytes)
    (found : t.blobs.get? digest = some bytes) :
    (t.ingest blobs).blobs.get? digest = some bytes := by
  induction blobs generalizing t with
  | nil => exact found
  | cons blob rest ih =>
      obtain ⟨first, others⟩ := List.forall_mem_cons.mp each
      refine ih others ?_
      by_cases same : digest = blob.1.digest
      · rw [same, first] at there
        rw [same, blobs_insertBlob_self, there]
      · exact (Dictionary.get?_insert_of_ne _ _ same).trans found

theorem get?_ingest_of_each (each : ∀ blob ∈ blobs, s.blobs.get? blob.1.digest = some blob.2) :
    ∀ blob ∈ blobs, (t.ingest blobs).blobs.get? blob.1.digest = some blob.2 := by
  induction blobs generalizing t with
  | nil => exact nofun
  | cons blob rest ih =>
      obtain ⟨first, others⟩ := List.forall_mem_cons.mp each
      refine List.forall_mem_cons.mpr ⟨?_, ih others⟩
      exact get?_ingest_of_found others first (blobs_insertBlob_self t _ _)

/-! ## Titles of blobs that come in -/

/-- A title is that of the last blob that came in with it, or it was there before. -/
theorem names_ingest (t : MemoryStore) (blobs : List (Descriptor × ByteArray)) (name : String) :
    (t.ingest blobs).names.get? name =
      ((blobs.reverse.find? fun blob => blob.1.title? = some name).map Prod.fst).or
        (t.names.get? name) := by
  induction blobs generalizing t with
  | nil => rfl
  | cons blob rest ih =>
      change ((t.insertBlob blob.1 blob.2).ingest rest).names.get? name = _
      rw [ih, names_insertBlob, List.reverse_cons, List.find?_append, Option.map_or, Option.or_assoc]
      congr 1
      by_cases titled : blob.1.title? = some name <;> simp [titled]

/-- On an empty stage that takes in an artifact a title gives the last blob that has it. -/
theorem getByName?_ingest (holds : s.Holds a) (reference name : String) :
    ((empty.ingest a.blobs).record reference a.manifest).getByName? name = a.titled? name := by
  have named := names_ingest empty a.blobs name
  change ((empty.ingest a.blobs).record reference a.manifest).names.get? name =
    ((a.titled? name).map Prod.fst).or none at named
  rw [Option.or_none] at named
  cases last : a.titled? name with
  | none =>
      rw [last] at named
      unfold getByName?
      rw [named]
      rfl
  | some blob =>
      rw [last] at named
      exact getByName?_eq named
        (get?_ingest_of_each holds.each blob (Artifact.mem_of_titled? last))

end MemoryStore

namespace Exchange

variable {s : MemoryStore} {reference : String} {a : Artifact}

/-! ## Pulling -/

/-- What is taken from the stage of an artifact is the package that the artifact is. -/
theorem opened_eq (holds : s.Holds a) (reference : String) :
    opened reference a = a.assemble reference := by
  unfold opened Artifact.assemble
  cases verified : a.verify with
  | error error =>
      have refused : MemoryStore.empty.store reference a = .error error := by
        unfold MemoryStore.store
        rw [verified]
        rfl
      rw [refused]
      rfl
  | ok _ =>
      rw [MemoryStore.store_eq_ok_iff.mpr ⟨verified, rfl, rfl⟩]
      simp only [Bind.bind, Except.bind, unstage, MemoryStore.getByName?_ingest holds]
      cases a.titled? Package.programName <;> cases a.titled? Configuration.fileName <;> rfl

/-- **Pulling.** From a memory store that has a manifest with its blobs under a reference that is
not blank, a pull makes the package that the artifact is, and the store stays as it is. -/
theorem pull_assembles {manifest : Manifest} (filled : ¬ Blank reference)
    (listed : s.manifest? reference = some manifest)
    (present : ∀ blob ∈ manifest.blobs, ∃ bytes, s.blobs.get? blob.digest = some bytes) :
    ∃ a, s.fetch reference = .ok a ∧ a.manifest = manifest ∧
      Gives ((Call.pull reference).perform s) (.pulled (a.assemble reference), s) := by
  obtain ⟨a, fetched, same, holds⟩ := MemoryStore.exists_fetch_of_complete listed present
  have pulled := gives_pull (.memory s) reference
  rw [Target.fetch, fetched, checkReference_of_not_blank filled] at pulled
  have made : Gives (pull (.memory s) reference) (opened reference a) := pulled
  rw [opened_eq holds] at made
  exact ⟨a, fetched, same, made.bind (.pure _)⟩

/-- A package whose program is the document of its configuration has one blob under two titles,
and is pulled as it is. -/
theorem pull_assembles_shared :
    let p : Package := { program := Package.configBytes { program := ⟨#[]⟩, config := { info := "x" } }
                         config := { info := "x" } }
    let s := (MemoryStore.empty.ingest p.artifact.blobs).record "a" p.artifact.manifest
    ¬ Blank "a" ∧ s.manifest? "a" = some p.manifest ∧
      (∀ blob ∈ p.manifest.blobs, ∃ bytes, s.blobs.get? blob.digest = some bytes) ∧
      Gives ((Call.pull "a").perform s) (.pulled (.ok p), s) := by
  intro p s
  have told : Digest.TellsApart (· ∈ p.artifact.contents) :=
    Digest.tellsApart_of_only fun bytes member => (List.mem_pair.mp member).elim id id
  have fetched := MemoryStore.fetch_of_store told (store_artifact .empty "a" p)
  obtain ⟨listed, holds⟩ := MemoryStore.fetch_eq_ok_iff.mp fetched
  have filled : ¬ Blank "a" := nofun
  obtain ⟨a, again, -, pulled⟩ := pull_assembles filled listed holds.complete
  obtain rfl := Except.ok.inj (again.symm.trans fetched)
  have assembled : p.artifact.assemble "a" = .ok p := by
    rw [← opened_eq holds]
    exact opened_artifact told "a"
  rw [assembled] at pulled
  exact ⟨filled, listed, holds.complete, pulled⟩

end Exchange

end BpfDepot
