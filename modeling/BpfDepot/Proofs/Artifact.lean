import BpfDepot.Artifact
import BpfDepot.Proofs.Manifest
import BpfDepot.Proofs.Package

/-! # What names an artifact

An artifact that passes its check has a blob for each descriptor of its manifest, and every blob
has the digest and the size that its descriptor states (`Artifact.verify_eq_ok_iff`). So where
digests tell byte strings apart, the digest of an artifact tells the whole of it up to the order
of annotations, in whatever order they are written (`Artifact.alike_of_digest_eq`).
-/

namespace BpfDepot

/-- Among some byte strings, no two have the same digest. -/
def Digest.TellsApart (known : ByteArray → Prop) : Prop :=
  ∀ bytes other, known bytes → known other → ofBytes bytes = ofBytes other → bytes = other

theorem Digest.TellsApart.mono {known some : ByteArray → Prop} (told : TellsApart known)
    (within : ∀ bytes, some bytes → known bytes) : TellsApart some :=
  fun bytes other here there => told bytes other (within bytes here) (within other there)

theorem Digest.tellsApart_of_only {known : ByteArray → Prop} {one : ByteArray}
    (only : ∀ bytes, known bytes → bytes = one) : TellsApart known :=
  fun bytes other here there _ => (only bytes here).trans (only other there).symm

/-- Lists of byte strings with the same digests are equal. -/
theorem Digest.TellsApart.eq_of_map_eq {as bs : List ByteArray} (told : TellsApart (· ∈ as ++ bs))
    (same : as.map ofBytes = bs.map ofBytes) : as = bs := by
  induction as generalizing bs with
  | nil => exact (List.map_eq_nil_iff.mp same.symm).symm
  | cons a as ih =>
      cases bs with
      | nil => cases same
      | cons b bs =>
          obtain ⟨first, others⟩ := List.cons.inj same
          have equal : a = b := told a b List.mem_cons_self
            (List.mem_append_right _ List.mem_cons_self) first
          have further : as = bs := by
            refine ih (told.mono fun bytes member => ?_) others
            exact List.mem_cons_of_mem _ ((List.append_sublist_append_left as).mpr
              (List.sublist_cons_self b bs) |>.mem member)
          rw [equal, further]

/-- Bytes fit a descriptor that states their digest and their number. -/
theorem Descriptor.verify_eq_ok_iff {d : Descriptor} {bytes : ByteArray} :
    d.verify bytes = .ok () ↔ Digest.ofBytes bytes = d.digest ∧ d.size = bytes.size := by
  unfold verify
  by_cases same : Digest.ofBytes bytes = d.digest <;> by_cases size : d.size = bytes.size <;>
    simp [same, size]

namespace Artifact

variable {a b a' b' : Artifact}

/-- The artifact has a blob for each descriptor of its manifest, and every blob fits. -/
theorem verify_eq_ok_iff :
    a.verify = .ok () ↔ a.layers.length = a.manifest.layers.length ∧
      ∀ blob ∈ a.blobs, blob.1.verify blob.2 = .ok () := by
  have each (blobs : List (Descriptor × ByteArray)) :
      (blobs.forM fun blob => blob.1.verify blob.2) = .ok () ↔
        ∀ blob ∈ blobs, blob.1.verify blob.2 = .ok () := by
    induction blobs with
    | nil => exact ⟨nofun, fun _ => rfl⟩
    | cons blob rest ih =>
        rw [List.forall_mem_cons, ← ih, List.forM]
        cases blob.1.verify blob.2 with
        | ok _ => exact ⟨fun further => ⟨rfl, further⟩, And.right⟩
        | error error => exact ⟨nofun, nofun⟩
  unfold verify
  by_cases counted : a.layers.length = a.manifest.layers.length
  · rw [if_neg (not_not_intro counted), each]
    exact ⟨fun fits => ⟨counted, fits⟩, And.right⟩
  · rw [if_pos counted]
    exact ⟨nofun, fun fits => absurd fits.1 counted⟩

/-- An artifact has the bytes of its configuration and of its layers. -/
def contents (a : Artifact) : List ByteArray := a.config :: a.layers

theorem mem_contents_of_mem_blobs {blob : Descriptor × ByteArray} (member : blob ∈ a.blobs) :
    blob.2 ∈ a.contents := by
  rcases List.mem_cons.mp member with rfl | layer
  · exact List.mem_cons_self
  · exact List.mem_cons_of_mem _ (List.of_mem_zip layer).2

/-- The blobs of an artifact that passes its check have the digests of its manifest, in order. -/
theorem digests_of_verify (verified : a.verify = .ok ()) :
    a.contents.map Digest.ofBytes = a.manifest.blobs.map Descriptor.digest := by
  obtain ⟨counted, fit⟩ := verify_eq_ok_iff.mp verified
  have paired : List.Forall₂ (fun bytes (d : Descriptor) => Digest.ofBytes bytes = d.digest)
      a.contents a.manifest.blobs := by
    apply List.Forall₂.flip
    apply List.forall₂_iff_zip.mpr
    constructor
    · exact congrArg Nat.succ counted.symm
    · exact fun member => (Descriptor.verify_eq_ok_iff.mp (fit _ member)).1
  rwa [← List.forall₂_eq_eq_eq, List.forall₂_map_left_iff, List.forall₂_map_right_iff]

/-- Artifacts with the same blobs whose manifests differ at most in the order of annotations. -/
structure Alike (a b : Artifact) : Prop where
  manifest : a.manifest.Alike b.manifest
  config : a.config = b.config
  layers : a.layers = b.layers

/-- **Digests of artifacts.** Where digests tell byte strings apart, the digest of an artifact that
passes its check tells its manifest, its configuration and its layers, in whatever order the
annotations are written. -/
theorem alike_of_digest_eq (written : a.Alike a') (other : b.Alike b')
    (verified : a.verify = .ok ()) (checked : b.verify = .ok ())
    (documents : Digest.TellsApart (· ∈ [a'.manifest.encode, b'.manifest.encode]))
    (blobs : Digest.TellsApart (· ∈ a.contents ++ b.contents)) (same : a'.digest = b'.digest) :
    a.Alike b := by
  have equal : a'.manifest = b'.manifest := by
    apply Manifest.encode_injective
    exact documents _ _ List.mem_cons_self (List.mem_cons_of_mem _ List.mem_cons_self) same
  have manifests : a.manifest.Alike b.manifest := by
    apply Manifest.equivalence_alike.trans written.manifest
    rw [equal]
    exact Manifest.equivalence_alike.symm other.manifest
  have digests : a.contents.map Digest.ofBytes = b.contents.map Digest.ofBytes := by
    rw [digests_of_verify verified, digests_of_verify checked]
    exact manifests.digests
  obtain ⟨config, layers⟩ := List.cons.inj (blobs.eq_of_map_eq digests)
  exact ⟨manifests, config, layers⟩

/-- Annotations the one way round and the other. -/
theorem alike_of_digest_eq_turned :
    let bytes : ByteArray := ⟨#[127, 69, 76, 70]⟩
    let settings : ByteArray := ⟨#[123, 125]⟩
    let manifest (annotations : Dictionary String) : Manifest :=
      { schemaVersion := 2, annotations := some annotations
        config := Descriptor.ofBlob Configuration.fileName Configuration.mediaType settings none
        layers := [Descriptor.ofBlob Package.programName Package.programMediaType bytes none] }
    let artifact (annotations : Dictionary String) : Artifact :=
      { manifest := manifest annotations, config := settings, layers := [bytes] }
    let a := artifact (.ofList [("owner", "net"), ("team", "é")])
    let b := artifact (.ofList [("team", "é"), ("owner", "net")])
    a.Alike b ∧ b.Alike b ∧ a.verify = .ok () ∧ b.verify = .ok () ∧
      Digest.TellsApart (· ∈ [b.manifest.encode, b.manifest.encode]) ∧
      Digest.TellsApart (· ∈ a.contents ++ b.contents) ∧ b.digest = b.digest ∧ a.Alike b := by
  intro bytes settings manifest artifact a b
  have fits (annotations : Dictionary String) : (artifact annotations).verify = .ok () := by
    apply verify_eq_ok_iff.mpr
    refine ⟨rfl, List.forall_mem_cons.mpr ⟨?_, List.forall_mem_singleton.mpr ?_⟩⟩
    · exact Descriptor.verify_ofBlob _ _ _ _
    · exact Descriptor.verify_ofBlob _ _ _ _
  have reflexive (a : Artifact) : a.Alike a := ⟨Manifest.equivalence_alike.refl _, rfl, rfl⟩
  have alike : a.Alike b := by
    refine ⟨⟨rfl, rfl, Descriptor.equivalence_alike.refl _, ?_, rfl, congrArg some ?_⟩, rfl, rfl⟩
    · exact List.forall₂_same.mpr fun d _ => Descriptor.equivalence_alike.refl d
    · exact Dictionary.get?_eq_iff.mpr (List.Perm.swap _ _ _)
  have documents : Digest.TellsApart (· ∈ [b.manifest.encode, b.manifest.encode]) :=
    Digest.tellsApart_of_only fun _ member => List.eq_of_mem_replicate (n := 2) member
  have blobs : Digest.TellsApart (· ∈ a.contents ++ b.contents) := by
    have apart : Digest.ofBytes settings ≠ Digest.ofBytes bytes := by
      rw [Digest.ofBytes_eq_numbers, Digest.ofBytes_eq_numbers]
      decide +kernel
    have either (some : ByteArray) (member : some ∈ [settings, bytes] ++ [settings, bytes]) :
        some = settings ∨ some = bytes := by
      simpa only [List.mem_append, or_self, List.mem_cons, List.not_mem_nil, or_false] using member
    intro first second here there same
    obtain rfl | rfl := either first here
    · obtain rfl | rfl := either second there
      · rfl
      · exact absurd same apart
    · obtain rfl | rfl := either second there
      · exact absurd same.symm apart
      · rfl
  exact ⟨alike, reflexive b, fits _, fits _, documents, blobs, rfl,
    alike_of_digest_eq alike (reflexive b) (fits _) (fits _) documents blobs rfl⟩

end Artifact

end BpfDepot
