import Mathlib.Data.List.Forall2
import BpfDepot.MemoryStore
import BpfDepot.Proofs.Artifact
import BpfDepot.Proofs.Dictionary
import BpfDepot.Proofs.Package

/-! # What a memory store holds

A store is sound if its blobs lie under their digests, the blobs of its manifests are
there, and so are those of its titles, which they fit (`MemoryStore.Sound`). Where digests
tell the byte strings apart that come in, a blob that fits its descriptor leaves the store
sound and all blobs that were there as they were (`MemoryStore.Sound.ingest`). What is
fetched is the manifest under the reference with the blobs under its digests
(`MemoryStore.fetch_eq_ok_iff`), so an artifact that is stored is fetched as it is
(`MemoryStore.Sound.store`).
-/

namespace BpfDepot

theorem Descriptor.title?_ofBlob (name mediaType : String) (bytes : ByteArray)
    (annotations : Option (Dictionary String)) :
    (ofBlob name mediaType bytes annotations).title? = some name :=
  Dictionary.get?_insert_self _ _ _

namespace MemoryStore

variable {known : ByteArray → Prop} {s s' : MemoryStore} {reference : String}

/-- The blobs of a store are known, and are where its manifests and titles look for them. -/
structure Sound (known : ByteArray → Prop) (s : MemoryStore) : Prop where
  /-- Every blob is known, and lies under its digest. -/
  keyed : ∀ digest bytes, s.blobs.get? digest = some bytes →
    known bytes ∧ Digest.ofBytes bytes = digest
  /-- The blobs of every manifest are there. -/
  complete : ∀ reference manifest, s.manifest? reference = some manifest →
    ∀ blob ∈ manifest.blobs, ∃ bytes, s.blobs.get? blob.digest = some bytes
  /-- The blob of every title is there, and fits. -/
  titled : ∀ name descriptor, s.names.get? name = some descriptor →
    ∃ bytes, s.blobs.get? descriptor.digest = some bytes ∧ descriptor.verify bytes = .ok ()

/-- Every blob of one store is in another one. -/
def Within (s s' : MemoryStore) : Prop :=
  ∀ digest bytes, s.blobs.get? digest = some bytes → s'.blobs.get? digest = some bytes

theorem Within.refl (s : MemoryStore) : Within s s := fun _ _ found => found

theorem Within.trans {s'' : MemoryStore} (first : Within s s') (second : Within s' s'') :
    Within s s'' := fun digest bytes found => second digest bytes (first digest bytes found)

theorem sound_empty (known : ByteArray → Prop) : Sound known empty :=
  ⟨nofun, nofun, nofun⟩

/-! ## Blobs that come in -/

/-- Adding the content of a file takes in its blob under a descriptor that is made for it. -/
theorem add_eq (s : MemoryStore) (name mediaType : String) (bytes : ByteArray) :
    (s.add name mediaType bytes).1 =
      s.insertBlob (Descriptor.ofBlob name mediaType bytes none) bytes := by
  unfold add insertBlob
  rw [Descriptor.title?_ofBlob]

theorem set_eq_ok_iff {descriptor : Descriptor} {bytes : ByteArray} :
    s.set descriptor bytes = .ok s' ↔
      descriptor.verify bytes = .ok () ∧ s' = s.insertBlob descriptor bytes := by
  unfold set
  cases descriptor.verify bytes with
  | error error => exact ⟨nofun, nofun⟩
  | ok _ => exact ⟨fun same => ⟨rfl, (Except.ok.inj same).symm⟩, fun same => same.2 ▸ rfl⟩

/-- Takes in blobs one after the other. -/
def ingest (s : MemoryStore) (blobs : List (Descriptor × ByteArray)) : MemoryStore :=
  blobs.foldl (fun s blob => s.insertBlob blob.1 blob.2) s

theorem blobs_insertBlob_self (s : MemoryStore) (descriptor : Descriptor) (bytes : ByteArray) :
    (s.insertBlob descriptor bytes).blobs.get? descriptor.digest = some bytes :=
  Dictionary.get?_insert_self _ _ _

/-- A title is that of the descriptor that comes in, or it was there before. -/
theorem names_insertBlob (s : MemoryStore) (descriptor : Descriptor) (bytes : ByteArray)
    (name : String) : (s.insertBlob descriptor bytes).names.get? name =
      if descriptor.title? = some name then some descriptor else s.names.get? name := by
  unfold insertBlob
  cases titled : descriptor.title? with
  | none => rfl
  | some title =>
      by_cases same : title = name
      · rw [same, if_pos rfl]
        exact Dictionary.get?_insert_self _ _ _
      · rw [if_neg (by simpa using same)]
        exact Dictionary.get?_insert_of_ne _ _ (Ne.symm same)

/-- A blob that comes in under its digest replaces no other blob that lies under its own. -/
theorem get?_insertBlob_of_keyed (told : Digest.TellsApart known) {descriptor : Descriptor}
    {bytes other : ByteArray} {digest : String} (fits : descriptor.verify bytes = .ok ())
    (here : known bytes) (there : known other) (keyed : Digest.ofBytes other = digest)
    (found : s.blobs.get? digest = some other) :
    (s.insertBlob descriptor bytes).blobs.get? digest = some other := by
  have named := (Descriptor.verify_eq_ok_iff.mp fits).1
  by_cases same : digest = descriptor.digest
  · have equal : other = bytes := told other bytes there here (by rw [keyed, same, named])
    rw [same, equal]
    exact blobs_insertBlob_self s descriptor bytes
  · exact (Dictionary.get?_insert_of_ne _ _ same).trans found

theorem get?_ingest_of_keyed (told : Digest.TellsApart known)
    {blobs : List (Descriptor × ByteArray)} {other : ByteArray} {digest : String}
    (fit : ∀ blob ∈ blobs, blob.1.verify blob.2 = .ok ()) (here : ∀ blob ∈ blobs, known blob.2)
    (there : known other) (keyed : Digest.ofBytes other = digest)
    (found : s.blobs.get? digest = some other) :
    (s.ingest blobs).blobs.get? digest = some other := by
  induction blobs generalizing s with
  | nil => exact found
  | cons blob rest ih =>
      obtain ⟨fits, further⟩ := List.forall_mem_cons.mp fit
      obtain ⟨first, others⟩ := List.forall_mem_cons.mp here
      exact ih further others (get?_insertBlob_of_keyed told fits first there keyed found)

/-- Blobs that come in under their digests are there, whatever was there before. -/
theorem get?_ingest (told : Digest.TellsApart known) {blobs : List (Descriptor × ByteArray)}
    (fit : ∀ blob ∈ blobs, blob.1.verify blob.2 = .ok ()) (here : ∀ blob ∈ blobs, known blob.2) :
    ∀ blob ∈ blobs, (s.ingest blobs).blobs.get? blob.1.digest = some blob.2 := by
  induction blobs generalizing s with
  | nil => exact nofun
  | cons blob rest ih =>
      obtain ⟨fits, further⟩ := List.forall_mem_cons.mp fit
      obtain ⟨first, others⟩ := List.forall_mem_cons.mp here
      refine List.forall_mem_cons.mpr ⟨?_, ih further others⟩
      change ((s.insertBlob blob.1 blob.2).ingest rest).blobs.get? _ = _
      exact get?_ingest_of_keyed told further others first (Descriptor.verify_eq_ok_iff.mp fits).1
        (blobs_insertBlob_self s _ _)

namespace Sound

/-- A known blob that comes in under its digest replaces no other blob. -/
theorem within_insertBlob (sound : Sound known s) (told : Digest.TellsApart known)
    {descriptor : Descriptor} {bytes : ByteArray} (fits : descriptor.verify bytes = .ok ())
    (here : known bytes) : Within s (s.insertBlob descriptor bytes) := by
  intro digest other found
  obtain ⟨there, keyed⟩ := sound.keyed digest other found
  exact get?_insertBlob_of_keyed told fits here there keyed found

theorem insertBlob (sound : Sound known s) (told : Digest.TellsApart known)
    {descriptor : Descriptor} {bytes : ByteArray} (fits : descriptor.verify bytes = .ok ())
    (here : known bytes) : Sound known (s.insertBlob descriptor bytes) := by
  have within := sound.within_insertBlob told fits here
  constructor
  · intro digest other found
    by_cases same : digest = descriptor.digest
    · rw [same, blobs_insertBlob_self] at found
      obtain rfl := Option.some.inj found
      exact ⟨here, by rw [same, (Descriptor.verify_eq_ok_iff.mp fits).1]⟩
    · exact sound.keyed digest other ((Dictionary.get?_insert_of_ne _ _ same).symm.trans found)
  · intro reference manifest stored blob member
    obtain ⟨other, found⟩ := sound.complete reference manifest stored blob member
    exact ⟨other, within _ _ found⟩
  · intro name other found
    rw [names_insertBlob] at found
    split at found
    · obtain rfl := Option.some.inj found
      exact ⟨bytes, blobs_insertBlob_self s descriptor bytes, fits⟩
    · obtain ⟨bytes, there, fits⟩ := sound.titled name other found
      exact ⟨bytes, within _ _ there, fits⟩

/-- **Blobs that come in.** Known blobs that fit their descriptors leave a store sound with
all its blobs. -/
theorem ingest (sound : Sound known s) (told : Digest.TellsApart known)
    {blobs : List (Descriptor × ByteArray)}
    (fit : ∀ blob ∈ blobs, blob.1.verify blob.2 = .ok ()) (here : ∀ blob ∈ blobs, known blob.2) :
    Sound known (s.ingest blobs) ∧ Within s (s.ingest blobs) := by
  induction blobs generalizing s with
  | nil => exact ⟨sound, Within.refl s⟩
  | cons blob rest ih =>
      obtain ⟨fits, further⟩ := List.forall_mem_cons.mp fit
      obtain ⟨first, others⟩ := List.forall_mem_cons.mp here
      obtain ⟨last, within⟩ := ih (sound.insertBlob told fits first) further others
      exact ⟨last, (sound.within_insertBlob told fits first).trans within⟩

end Sound

theorem manifest?_ingest (s : MemoryStore) (blobs : List (Descriptor × ByteArray))
    (reference : String) : (s.ingest blobs).manifest? reference = s.manifest? reference := by
  induction blobs generalizing s with
  | nil => rfl
  | cons blob rest ih => exact ih _

/-! ## Manifests -/

/-- Binds a reference to a manifest. -/
def record (s : MemoryStore) (reference : String) (manifest : Manifest) : MemoryStore :=
  { s with manifests := s.manifests.insert reference manifest }

theorem manifest?_record (s : MemoryStore) (reference : String) (manifest : Manifest)
    (other : String) : (s.record reference manifest).manifest? other =
      if other = reference then some manifest else s.manifest? other := by
  by_cases same : other = reference
  · rw [same, if_pos rfl]
    exact Dictionary.get?_insert_self _ _ _
  · rw [if_neg same]
    exact Dictionary.get?_insert_of_ne _ _ same

theorem Sound.record (sound : Sound known s) {manifest : Manifest}
    (complete : ∀ blob ∈ manifest.blobs, ∃ bytes, s.blobs.get? blob.digest = some bytes)
    (reference : String) : Sound known (s.record reference manifest) := by
  constructor
  · exact sound.keyed
  · intro other stored found blob member
    rw [manifest?_record] at found
    split at found
    · obtain rfl := Option.some.inj found
      exact complete blob member
    · exact sound.complete other stored found blob member
  · exact sound.titled

/-- A manifest is taken in if its blobs are there. -/
theorem storeManifest_eq_ok_iff {manifest : Manifest} {digest : String} :
    s.storeManifest reference manifest = .ok (s', digest) ↔
      (∀ blob ∈ manifest.blobs, ∃ bytes, s.blobs.get? blob.digest = some bytes) ∧
        s' = s.record reference manifest ∧ digest = manifest.digest := by
  have present (blob : Descriptor) : ¬ (!s.blobs.contains blob.digest) = true ↔
      ∃ bytes, s.blobs.get? blob.digest = some bytes := by
    rw [Dictionary.contains, Bool.not_eq_true, Bool.not_eq_false', Option.isSome_iff_exists]
  unfold storeManifest
  cases missing : manifest.blobs.find? fun blob => !s.blobs.contains blob.digest with
  | some blob =>
      constructor
      · rintro ⟨⟩
      · intro given
        exact absurd (List.find?_some missing)
          ((present blob).mpr (given.1 blob (List.mem_of_find?_eq_some missing)))
  | none =>
      have all := List.find?_eq_none.mp missing
      simp only [Except.ok.injEq, Prod.mk.injEq]
      exact ⟨fun same => ⟨fun blob member => (present blob).mp (all blob member),
        same.1.symm, same.2.symm⟩, fun given => ⟨given.2.1.symm, given.2.2.symm⟩⟩

/-! ## Artifacts -/

/-- An artifact is taken in if its blobs fit. -/
theorem store_eq_ok_iff {artifact : Artifact} {digest : String} :
    s.store reference artifact = .ok (s', digest) ↔ artifact.verify = .ok () ∧
      s' = (s.ingest artifact.blobs).record reference artifact.manifest ∧
        digest = artifact.digest := by
  unfold store
  cases artifact.verify with
  | error error => exact ⟨nofun, nofun⟩
  | ok _ =>
      constructor
      · intro same
        obtain ⟨rfl, rfl⟩ := Prod.mk.inj (Except.ok.inj same)
        exact ⟨rfl, rfl, rfl⟩
      · rintro ⟨-, rfl, rfl⟩
        rfl

/-- A store holds the blobs of an artifact under the digests that its manifest states. -/
def Holds (s : MemoryStore) (a : Artifact) : Prop :=
  s.blobs.get? a.manifest.config.digest = some a.config ∧
    List.Forall₂ (fun descriptor bytes => s.blobs.get? descriptor.digest = some bytes)
      a.manifest.layers a.layers

theorem Holds.within {a : Artifact} (holds : s.Holds a) (within : Within s s') : s'.Holds a :=
  ⟨within _ _ holds.1, holds.2.imp fun _ _ found => within _ _ found⟩

/-- Every descriptor of the manifest has a blob. -/
theorem Holds.complete {a : Artifact} (holds : s.Holds a) :
    ∀ blob ∈ a.manifest.blobs, ∃ bytes, s.blobs.get? blob.digest = some bytes := by
  have paired := List.Forall₂.flip (R := flip fun (descriptor : Descriptor) bytes =>
    s.blobs.get? descriptor.digest = some bytes) holds.2
  have listed : ∀ blob ∈ a.manifest.layers, ∃ bytes, s.blobs.get? blob.digest = some bytes :=
    forall_mem_of_forall₂ paired fun bytes _ _ found => ⟨bytes, found⟩
  exact List.forall_mem_cons.mpr ⟨⟨_, holds.1⟩, listed⟩

/-- A list of results is that of the results of its items. -/
theorem mapM_eq_ok_iff {ε α β : Type} {f : α → Except ε β} {as : List α} {bs : List β} :
    as.mapM f = .ok bs ↔ List.Forall₂ (fun a b => f a = .ok b) as bs := by
  induction as generalizing bs with
  | nil =>
      rw [List.forall₂_nil_left_iff]
      exact ⟨fun same => (Except.ok.inj same).symm, fun same => same ▸ rfl⟩
  | cons a rest ih =>
      rw [List.mapM_cons, List.forall₂_cons_left_iff]
      simp only [← ih]
      cases f a with
      | error error => exact ⟨nofun, nofun⟩
      | ok b =>
          cases rest.mapM f with
          | error error => exact ⟨nofun, fun ⟨_, _, _, impossible, _⟩ => nomatch impossible⟩
          | ok others =>
              constructor
              · intro same
                exact ⟨b, others, rfl, rfl, (Except.ok.inj same).symm⟩
              · rintro ⟨_, _, ⟨⟩, ⟨⟩, rfl⟩
                rfl

theorem blob_eq_ok_iff {descriptor : Descriptor} {bytes : ByteArray} :
    s.blob descriptor = .ok bytes ↔ s.blobs.get? descriptor.digest = some bytes := by
  unfold blob
  cases s.blobs.get? descriptor.digest with
  | none => exact ⟨nofun, nofun⟩
  | some other =>
      exact ⟨fun same => congrArg some (Except.ok.inj same),
        fun same => congrArg Except.ok (Option.some.inj same)⟩

/-- **Fetching.** What is fetched is the manifest under the reference with the blobs under
its digests. -/
theorem fetch_eq_ok_iff {a : Artifact} :
    s.fetch reference = .ok a ↔ s.manifest? reference = some a.manifest ∧ s.Holds a := by
  have each (layers : List ByteArray) (descriptors : List Descriptor) :
      descriptors.mapM s.blob = .ok layers ↔ List.Forall₂
        (fun descriptor bytes => s.blobs.get? descriptor.digest = some bytes)
        descriptors layers := by
    simp only [mapM_eq_ok_iff, blob_eq_ok_iff]
  unfold fetch Holds
  cases s.manifest? reference with
  | none => exact ⟨nofun, nofun⟩
  | some manifest =>
      rw [← each, ← blob_eq_ok_iff]
      obtain ⟨stored, config, layers⟩ := a
      constructor
      · intro fetched
        cases first : s.blob manifest.config with
        | error error =>
            simp only [first] at fetched
            cases fetched
        | ok bytes =>
            cases others : manifest.layers.mapM s.blob with
            | error error =>
                simp only [first, others] at fetched
                cases fetched
            | ok blobs =>
                simp only [first, others] at fetched
                cases fetched
                exact ⟨rfl, first, others⟩
      · rintro ⟨⟨⟩, first, others⟩
        simp only at first others
        simp only [first, others]
        rfl

/-- A title gives the descriptor under it and the blob under its digest. -/
theorem getByName?_eq {name : String} {descriptor : Descriptor} {bytes : ByteArray}
    (titled : s.names.get? name = some descriptor)
    (found : s.blobs.get? descriptor.digest = some bytes) :
    s.getByName? name = some (descriptor, bytes) := by
  unfold getByName?
  rw [titled, Option.bind_eq_bind, Option.bind_some, found]
  rfl

/-- An artifact that is stored is fetched as it is, whatever was there before, if digests tell
its blobs apart. -/
theorem fetch_of_store {a : Artifact} {digest : String}
    (told : Digest.TellsApart (· ∈ a.contents))
    (stored : s.store reference a = .ok (s', digest)) : s'.fetch reference = .ok a := by
  obtain ⟨verified, rfl, -⟩ := store_eq_ok_iff.mp stored
  obtain ⟨counted, fit⟩ := Artifact.verify_eq_ok_iff.mp verified
  have present := get?_ingest (s := s) told fit fun _ => Artifact.mem_contents_of_mem_blobs
  apply fetch_eq_ok_iff.mpr
  constructor
  · rw [manifest?_record, if_pos rfl]
  · refine ⟨present _ List.mem_cons_self, List.forall₂_iff_zip.mpr ⟨counted.symm, ?_⟩⟩
    exact fun member => present _ (List.mem_cons_of_mem _ member)

/-- Where nothing that a manifest lists is missing its artifact is fetched. -/
theorem exists_fetch_of_complete {manifest : Manifest}
    (stored : s.manifest? reference = some manifest)
    (listed : ∀ blob ∈ manifest.blobs, ∃ bytes, s.blobs.get? blob.digest = some bytes) :
    ∃ a, s.fetch reference = .ok a ∧ a.manifest = manifest ∧ s.Holds a := by
  obtain ⟨config, first⟩ := listed manifest.config List.mem_cons_self
  have found (descriptors : List Descriptor)
      (there : ∀ d ∈ descriptors, ∃ bytes, s.blobs.get? d.digest = some bytes) :
      ∃ layers, List.Forall₂ (fun d bytes => s.blobs.get? d.digest = some bytes)
        descriptors layers := by
    induction descriptors with
    | nil => exact ⟨[], .nil⟩
    | cons d rest ih =>
        obtain ⟨⟨bytes, here⟩, others⟩ := List.forall_mem_cons.mp there
        obtain ⟨layers, further⟩ := ih others
        exact ⟨bytes :: layers, .cons here further⟩
  obtain ⟨layers, others⟩ :=
    found manifest.layers fun d member => listed d (List.mem_cons_of_mem _ member)
  let a : Artifact := { manifest, config, layers }
  have holds : s.Holds a := ⟨first, others⟩
  exact ⟨a, fetch_eq_ok_iff.mpr ⟨stored, holds⟩, rfl, holds⟩

theorem fetch_of_none (absent : s.manifest? reference = none) :
    s.fetch reference = .error (.notFound reference) := by
  unfold fetch
  rw [absent]
  rfl

namespace Sound

/-- An artifact that is fetched has blobs with the digests of its manifest. -/
theorem digests_of_holds (sound : Sound known s) {a : Artifact} (holds : s.Holds a) :
    Digest.ofBytes a.config = a.manifest.config.digest ∧
      List.Forall₂ (fun descriptor bytes => Digest.ofBytes bytes = descriptor.digest)
        a.manifest.layers a.layers :=
  ⟨(sound.keyed _ _ holds.1).2, holds.2.imp fun _ _ found => (sound.keyed _ _ found).2⟩

/-- An artifact that is fetched has known bytes. -/
theorem known_of_holds (sound : Sound known s) {a : Artifact} (holds : s.Holds a) :
    ∀ bytes ∈ a.contents, known bytes := by
  have listed : ∀ bytes ∈ a.layers, known bytes :=
    forall_mem_of_forall₂ holds.2 fun _ _ _ found => (sound.keyed _ _ found).1
  exact List.forall_mem_cons.mpr ⟨(sound.keyed _ _ holds.1).1, listed⟩

/-- Nothing that a manifest lists is missing. -/
theorem exists_fetch (sound : Sound known s) {manifest : Manifest}
    (stored : s.manifest? reference = some manifest) :
    ∃ a, s.fetch reference = .ok a ∧ a.manifest = manifest ∧ s.Holds a :=
  exists_fetch_of_complete stored (sound.complete reference manifest stored)

/-- What is fetched does not change while the manifest does not and no blob is lost. -/
theorem fetch_eq_of_within (sound : Sound known s) (within : Within s s')
    (same : s'.manifest? reference = s.manifest? reference) :
    s'.fetch reference = s.fetch reference := by
  cases stored : s.manifest? reference with
  | none => rw [fetch_of_none stored, fetch_of_none (same.trans stored)]
  | some manifest =>
      obtain ⟨a, fetched, rfl, holds⟩ := sound.exists_fetch stored
      rw [fetched]
      exact fetch_eq_ok_iff.mpr ⟨same.trans stored, holds.within within⟩

/-- The blob that a title gives fits. -/
theorem getByName?_of_some (sound : Sound known s) {name : String} {descriptor : Descriptor}
    (titled : s.names.get? name = some descriptor) :
    ∃ bytes, s.getByName? name = some (descriptor, bytes) ∧
      descriptor.verify bytes = .ok () := by
  obtain ⟨bytes, found, fits⟩ := sound.titled name descriptor titled
  exact ⟨bytes, getByName?_eq titled found, fits⟩

/-- **Storing.** A known artifact whose blobs fit is stored: the store stays sound, keeps
its blobs, and gives the artifact back under its reference. -/
theorem store (sound : Sound known s) (told : Digest.TellsApart known) {a : Artifact}
    (here : ∀ bytes ∈ a.contents, known bytes) {digest : String}
    (stored : s.store reference a = .ok (s', digest)) :
    Sound known s' ∧ Within s s' ∧ s'.fetch reference = .ok a := by
  have fetched := fetch_of_store (told.mono here) stored
  have complete := (fetch_eq_ok_iff.mp fetched).2.complete
  obtain ⟨verified, rfl, -⟩ := store_eq_ok_iff.mp stored
  obtain ⟨sound, within⟩ := sound.ingest told (Artifact.verify_eq_ok_iff.mp verified).2
    fun blob member => here _ (Artifact.mem_contents_of_mem_blobs member)
  exact ⟨sound.record complete reference, within, fetched⟩

end Sound

end MemoryStore

end BpfDepot
