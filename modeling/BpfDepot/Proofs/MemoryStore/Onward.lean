import BpfDepot.Proofs.MemoryStore.History

/-! # Artifacts that are handed on

What a store gives out is copied to any other store and fetched there as it is, if it passes its
check (`MemoryStore.handsOn_of_fetch`). What came in as a whole passes it, since blobs are not lost
(`MemoryStore.Checked.of_steps`). A manifest that came in alone was only looked up in the blobs
that were there, so its artifact passes exactly if its descriptors state the right sizes
(`MemoryStore.handed_on`).
-/

namespace BpfDepot.MemoryStore

variable {known : ByteArray → Prop} {s s' : MemoryStore} {reference : String}

/-! ## Copies -/

/-- **Handing on.** What becomes of an artifact that is copied from one store to another, whatever
is there. -/
structure HandsOn (s : MemoryStore) (reference : String) (a : Artifact) : Prop where
  /-- If it passes its check it arrives, and is fetched there as it is. -/
  arrives : a.verify = .ok () → ∀ (d : MemoryStore) (name : String), ∃ after,
    Logged.Gives ((Target.memory s).copy reference (.memory d) name)
      (.memory after, .ok a.digest) ∧
    after.fetch (Target.copyReference reference name) = .ok a
  /-- Else it is refused as its check says, and the other store stays as it is. -/
  refused : ∀ error, a.verify = .error error → ∀ (d : MemoryStore) (name : String),
    Logged.Gives ((Target.memory s).copy reference (.memory d) name) (.memory d, .error error)

theorem handsOn_of_fetch {a : Artifact} (told : Digest.TellsApart (· ∈ a.contents))
    (fetched : s.fetch reference = .ok a) : HandsOn s reference a := by
  have given : (Target.memory s).fetch reference = .ok a := fetched
  have copies (d : MemoryStore) (name : String) :
      Logged.Gives ((Target.memory s).copy reference (.memory d) name)
        (Target.delivered d (d.store (Target.copyReference reference name) a)) := by
    have same : (Target.memory s).delivery reference d name =
        d.store (Target.copyReference reference name) a := by
      unfold Target.delivery
      rw [given]
      rfl
    rw [← same]
    exact Target.gives_copy _ _ _ _
  constructor
  · intro verified d name
    have stored : d.store (Target.copyReference reference name) a = .ok
        ((d.ingest a.blobs).record (Target.copyReference reference name) a.manifest, a.digest) :=
      store_eq_ok_iff.mpr ⟨verified, rfl, rfl⟩
    have copied := copies d name
    rw [stored] at copied
    exact ⟨_, copied, fetch_of_store told stored⟩
  · intro error failed d name
    have refused : d.store (Target.copyReference reference name) a = .error error := by
      unfold store
      rw [failed]
      rfl
    have copied := copies d name
    rwa [refused] at copied

/-- The blobs that a sound store gives out have the digests of the manifest, so only their sizes
can be wrong. -/
theorem Sound.verify_iff_sizes (sound : Sound known s) {a : Artifact} (holds : s.Holds a) :
    a.verify = .ok () ↔ ∀ blob ∈ a.blobs, blob.1.size = blob.2.size := by
  obtain ⟨config, layers⟩ := sound.digests_of_holds holds
  obtain ⟨counted, paired⟩ := List.forall₂_iff_zip.mp layers
  have named : ∀ blob ∈ a.blobs, Digest.ofBytes blob.2 = blob.1.digest :=
    List.forall_mem_cons.mpr ⟨config, fun _ member => paired member⟩
  rw [Artifact.verify_eq_ok_iff]
  constructor
  · rintro ⟨-, fit⟩ blob member
    exact (Descriptor.verify_eq_ok_iff.mp (fit blob member)).2
  · intro sizes
    refine ⟨counted.symm, fun blob member => ?_⟩
    exact Descriptor.verify_eq_ok_iff.mpr ⟨named blob member, sizes blob member⟩

/-- The references are those that have a manifest. -/
theorem mem_references_iff :
    reference ∈ s.references ↔ ∃ manifest, s.manifest? reference = some manifest := by
  unfold references manifest?
  rw [List.mem_mergeSort, Dictionary.mem_keys_iff]

/-! ## Who bound a reference -/

/-- For each reference the latest call that succeeded in binding it. -/
abbrev Binders := String → Option Call

/-- The binders after a call of which it is known whether it succeeded. -/
def Binders.after (b : Binders) (entry : Call × Except Error Unit) : Binders := fun reference =>
  if entry.2.isOk ∧ entry.1.bound? = some reference then some entry.1 else b reference

/-- The binders of a history that starts with nothing. -/
def History.binders (history : History) : Binders := history.foldl Binders.after fun _ => none

/-- Every manifest was bound, and the artifact of one that did not come in alone passes its
check. -/
def Checked (b : Binders) (s : MemoryStore) : Prop :=
  ∀ reference manifest, s.manifest? reference = some manifest → ∃ call, b reference = some call ∧
    ((∀ name manifest, call ≠ .storeManifest name manifest) →
      ∃ a, s.fetch reference = .ok a ∧ a.verify = .ok ())

/-- A call that brings an artifact as a whole brings one that passes its check. -/
theorem fetch_of_outcome (sound : Sound known s) (told : Digest.TellsApart known) {call : Call}
    (here : ∀ bytes ∈ call.supplied, known bytes) (done : call.outcome s = .ok s')
    (bound : call.bound? = some reference)
    (whole : ∀ name manifest, call ≠ .storeManifest name manifest) :
    ∃ a, s'.fetch reference = .ok a ∧ a.verify = .ok () := by
  cases call with
  | add name mediaType bytes => cases bound
  | set descriptor bytes => cases bound
  | copyTo destination sourceReference name => cases bound
  | storeManifest name manifest => exact absurd rfl (whole name manifest)
  | store name artifact =>
      obtain rfl := Option.some.inj bound
      obtain ⟨digest, stored⟩ := Call.map_fst_eq_ok_iff.mp done
      exact ⟨artifact, fetch_of_store (told.mono here) stored, (store_eq_ok_iff.mp stored).1⟩
  | copyFrom source sourceReference name =>
      obtain rfl := Option.some.inj bound
      obtain ⟨artifact, digest, fetched, stored⟩ := Call.copied_eq_ok_iff.mp done
      simp only [Call.supplied, fetched] at here
      exact ⟨artifact, fetch_of_store (told.mono here) stored, (store_eq_ok_iff.mp stored).1⟩
  | copyWithin sourceReference name =>
      obtain rfl := Option.some.inj bound
      obtain ⟨artifact, digest, fetched, stored⟩ := Call.copied_eq_ok_iff.mp done
      -- the blobs of the copy have come in before
      have here := sound.known_of_holds (fetch_eq_ok_iff.mp fetched).2
      exact ⟨artifact, fetch_of_store (told.mono here) stored, (store_eq_ok_iff.mp stored).1⟩

namespace Checked

variable {b : Binders}

theorem nothing : Checked (fun _ => none) empty := by
  intro reference manifest stored
  cases stored

/-- **Steps.** What has passed its check before a call passes it afterwards. -/
theorem outcome (checked : Checked b s) (sound : Sound known s) (told : Digest.TellsApart known)
    {call : Call} (here : ∀ bytes ∈ call.supplied, known bytes)
    (done : call.outcome s = .ok s') : Checked (b.after (call, .ok ())) s' := by
  intro reference manifest stored
  by_cases bound : call.bound? = some reference
  · exact ⟨call, if_pos ⟨rfl, bound⟩, fetch_of_outcome sound told here done bound⟩
  · have same : s'.manifest? reference = s.manifest? reference := by
      obtain ⟨-, same⟩ | ⟨named, manifest, named_eq, recorded⟩ := manifest?_of_outcome done
      · exact same reference
      · rw [recorded, if_neg fun equal => bound (named_eq.trans (congrArg some equal.symm))]
    obtain ⟨binder, last, passes⟩ := checked reference manifest (same.symm.trans stored)
    refine ⟨binder, (if_neg fun both => bound both.2).trans last, fun whole => ?_⟩
    rw [sound.fetch_eq_of_within (sound.outcome told here done).2 same]
    exact passes whole

/-- **Runs.** What has passed its check passes it after any calls that bring known byte strings. -/
theorem of_steps {history : History} (steps : Steps s history s') (checked : Checked b s)
    (sound : Sound known s) (told : Digest.TellsApart known)
    (here : ∀ call ∈ history.map Prod.fst, ∀ bytes ∈ call.supplied, known bytes) :
    Sound known s' ∧ Checked (history.foldl Binders.after b) s' := by
  induction steps generalizing b with
  | nothing s => exact ⟨sound, checked⟩
  | @failed s s' call error history _ ih =>
      obtain ⟨-, others⟩ := List.forall_mem_cons.mp here
      have same : b.after (call, .error error) = b :=
        funext fun reference => if_neg fun both => nomatch both.1
      exact ih (same.symm ▸ checked) sound others
  | done succeeded _ ih =>
      obtain ⟨first, others⟩ := List.forall_mem_cons.mp here
      exact ih (checked.outcome sound told first succeeded)
        (sound.outcome told first succeeded).1 others

end Checked

/-- **Artifacts that are handed on.** After any calls a store that was empty gives out an artifact
for each of its references, if digests tell apart the byte strings that the calls bring. The
artifact passes its check exactly if its descriptors state the sizes of its blobs, and always if
the latest call that bound the reference was not one that brought a manifest alone. If it passes,
a copy of it to any store arrives, and else the copy is refused. -/
theorem handed_on (calls : List Call) (events : List Event)
    (told : Digest.TellsApart (· ∈ calls.flatMap Call.supplied)) :
    ∃ history s between, (Call.performAll calls).run empty events = ((history, s), between) ∧
      history.map Prod.fst = calls ∧ ∀ reference ∈ s.references, ∃ a call,
        s.fetch reference = .ok a ∧ history.binders reference = some call ∧
        (a.verify = .ok () ↔ ∀ blob ∈ a.blobs, blob.1.size = blob.2.size) ∧
        ((∀ name manifest, call ≠ .storeManifest name manifest) → a.verify = .ok ()) ∧
        HandsOn s reference a := by
  obtain ⟨history, s, between, ran, rfl, steps⟩ := Call.performAll_steps calls empty events
  obtain ⟨sound, checked⟩ := Checked.of_steps steps Checked.nothing (sound_empty _) told
    fun call member bytes supplied => List.mem_flatMap.mpr ⟨call, member, supplied⟩
  refine ⟨history, s, between, ran, rfl, fun reference member => ?_⟩
  obtain ⟨manifest, stored⟩ := mem_references_iff.mp member
  obtain ⟨a, fetched, -, holds⟩ := sound.exists_fetch stored
  obtain ⟨call, last, passes⟩ := checked reference manifest stored
  refine ⟨a, call, fetched, last, sound.verify_iff_sizes holds, fun whole => ?_,
    handsOn_of_fetch (told.mono (sound.known_of_holds holds)) fetched⟩
  obtain ⟨other, same, verified⟩ := passes whole
  obtain rfl := Except.ok.inj (fetched.symm.trans same)
  exact verified

/-- A manifest that comes in alone, and a copy of its artifact. -/
theorem handed_on_copied :
    let bytes : ByteArray := ⟨#[127, 69, 76, 70]⟩
    let blob := Descriptor.ofBlob Package.programName Package.programMediaType bytes none
    let manifest : Manifest := { schemaVersion := 2, config := blob, layers := [blob] }
    let calls : List Call := [.add Package.programName Package.programMediaType bytes,
      .storeManifest "a" manifest, .copyWithin "a" "b"]
    Digest.TellsApart (· ∈ calls.flatMap Call.supplied) ∧
      ∃ history s between, (Call.performAll calls).run empty [] = ((history, s), between) ∧
        history.map Prod.fst = calls ∧ ∀ reference ∈ s.references, ∃ a call,
          s.fetch reference = .ok a ∧ history.binders reference = some call ∧
          (a.verify = .ok () ↔ ∀ blob ∈ a.blobs, blob.1.size = blob.2.size) ∧
          ((∀ name manifest, call ≠ .storeManifest name manifest) → a.verify = .ok ()) ∧
          HandsOn s reference a := by
  intro bytes blob manifest calls
  have only : calls.flatMap Call.supplied = [bytes] := rfl
  have told : Digest.TellsApart (· ∈ calls.flatMap Call.supplied) := by
    rw [only]
    exact Digest.tellsApart_of_only fun _ => List.mem_singleton.mp
  exact ⟨told, handed_on calls [] told⟩

/-! ## A size that nobody checks -/

theorem Call.perform_storeManifest {manifest : Manifest} {digest : String}
    (stored : s.storeManifest reference manifest = .ok (s', digest)) (events : List Event) :
    (Call.storeManifest reference manifest).perform s events = ((.ok (), s'), events) := by
  change Call.settle ((s.storeManifest reference manifest).map Prod.fst) s events = _
  rw [stored]
  rfl

namespace Oversized

/-- The only blob. -/
def bytes : ByteArray := ⟨#[112]⟩

/-- A descriptor of the blob that states another size. -/
def descriptor : Descriptor where
  mediaType := "m"
  digest := Digest.ofBytes bytes
  size := 5

/-- The artifact of the blob. -/
def artifact : Artifact where
  manifest := { schemaVersion := 2, config := descriptor, layers := [] }
  config := bytes
  layers := []

/-- The blob comes in, and then the manifest alone. -/
def calls : List Call := [.add "n" "m" bytes, .storeManifest "a" artifact.manifest]

/-- The store after the calls. -/
def store : MemoryStore := (empty.add "n" "m" bytes).1.record "a" artifact.manifest

theorem performAll_calls :
    ∃ history, (Call.performAll calls).run empty [] = ((history, store), []) := by
  have present : (empty.add "n" "m" bytes).1.blobs.get? descriptor.digest = some bytes :=
    Dictionary.get?_insert_self _ _ _
  have stored : (empty.add "n" "m" bytes).1.storeManifest "a" artifact.manifest =
      .ok (store, artifact.manifest.digest) :=
    storeManifest_eq_ok_iff.mpr ⟨List.forall_mem_singleton.mpr ⟨bytes, present⟩, rfl, rfl⟩
  have performed := Call.perform_storeManifest stored []
  exact ⟨_, Call.performAll_cons rfl (Call.performAll_cons performed rfl)⟩

end Oversized

/-- A manifest that comes in alone is taken in with a wrong size, and its artifact is refused by
every other store. -/
theorem size_unchecked : ∃ calls history s reference a error,
    Digest.TellsApart (· ∈ calls.flatMap Call.supplied) ∧
      (Call.performAll calls).run empty [] = ((history, s), []) ∧ reference ∈ s.references ∧
      s.fetch reference = .ok a ∧ a.verify = .error error ∧ ∀ (d : MemoryStore) (name : String),
        Logged.Gives ((Target.memory s).copy reference (.memory d) name)
          (.memory d, .error error) := by
  obtain ⟨history, ran⟩ := Oversized.performAll_calls
  have told : Digest.TellsApart (· ∈ [Oversized.bytes]) :=
    Digest.tellsApart_of_only fun _ => List.mem_singleton.mp
  have listed : Oversized.store.manifest? "a" = some Oversized.artifact.manifest :=
    Dictionary.get?_insert_self _ _ _
  have present : Oversized.store.blobs.get? Oversized.descriptor.digest = some Oversized.bytes :=
    Dictionary.get?_insert_self _ _ _
  have fetched : Oversized.store.fetch "a" = .ok Oversized.artifact :=
    fetch_eq_ok_iff.mpr ⟨listed, present, .nil⟩
  cases checked : Oversized.artifact.verify with
  | ok _ =>
      have fits := (Artifact.verify_eq_ok_iff.mp checked).2 _ List.mem_cons_self
      have size : (5 : Int) = 1 := (Descriptor.verify_eq_ok_iff.mp fits).2
      exact absurd size (by decide)
  | error error =>
      refine ⟨Oversized.calls, history, Oversized.store, "a", Oversized.artifact, error, told, ran,
        mem_references_iff.mpr ⟨_, listed⟩, fetched, checked, ?_⟩
      exact (handsOn_of_fetch (a := Oversized.artifact) told fetched).refused error checked

end BpfDepot.MemoryStore
