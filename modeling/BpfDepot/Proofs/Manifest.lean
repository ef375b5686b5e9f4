import Mathlib.Data.List.Forall2
import BpfDepot.Manifest
import BpfDepot.Proofs.Json.Dictionary
import BpfDepot.Proofs.Json.Injective
import BpfDepot.Proofs.Json.List
import BpfDepot.Proofs.Json.Number

/-! # Manifests and their documents

Annotations have an order only where they are written. What does not depend on it is stated up
to that order (`Descriptor.Alike`, `Manifest.Alike`). Whatever the order is, the document of a
manifest is decoded as the manifest (`Manifest.decode_document`), and different manifests have
documents with different bytes (`Manifest.encode_injective`).
-/

namespace BpfDepot

/-- What follows for the second items of all pairs holds throughout the second list. -/
theorem forall_mem_of_forall₂ {α β : Type} {R : α → β → Prop} {p : β → Prop} {as : List α}
    {bs : List β} (paired : List.Forall₂ R as bs) (each : ∀ a ∈ as, ∀ b, R a b → p b) :
    ∀ b ∈ bs, p b := by
  induction paired with
  | nil => exact nofun
  | cons here _ ih =>
      obtain ⟨first, others⟩ := List.forall_mem_cons.mp each
      exact List.forall_mem_cons.mpr ⟨first _ here, ih others⟩

/-! ## Descriptors -/

namespace Descriptor

/-- Descriptors that differ at most in the order of their annotations. -/
structure Alike (d e : Descriptor) : Prop where
  mediaType : d.mediaType = e.mediaType
  digest : d.digest = e.digest
  size : d.size = e.size
  urls : d.urls = e.urls
  /-- The annotations are the same, as maps. -/
  annotations : d.annotations.map Dictionary.get? = e.annotations.map Dictionary.get?

theorem equivalence_alike : Equivalence Alike where
  refl _ := ⟨rfl, rfl, rfl, rfl, rfl⟩
  symm same := ⟨same.mediaType.symm, same.digest.symm, same.size.symm, same.urls.symm,
    same.annotations.symm⟩
  trans first second := ⟨first.mediaType.trans second.mediaType, first.digest.trans second.digest,
    first.size.trans second.size, first.urls.trans second.urls,
    first.annotations.trans second.annotations⟩

/-- The size of a descriptor is a whole number of 64 bits. -/
def InRange (d : Descriptor) : Prop := -(2 ^ 63) ≤ d.size ∧ d.size < 2 ^ 63

theorem keeps_codec {d : Descriptor} (range : d.InRange) : codec.Keeps d := by
  refine Json.Codec.keeps_via (Json.Codec.keeps_record (by decide)
    ⟨Json.Codec.keeps_text _, Json.Codec.keeps_text _,
      Json.Codec.keeps_integer range.1 range.2, ?_, ?_, trivial⟩) rfl
  · exact fun urls _ => Json.Codec.keeps_list fun url _ => Json.Codec.keeps_text url
  · exact fun annotations _ => Json.Codec.keeps_dictionary fun entry _ => Json.Codec.keeps_text _

theorem injective_codec : Function.Injective codec.write := by
  refine Json.Codec.injective_via (Json.Codec.injective_record (by decide) ?_) ?_ _
  · exact ⟨Json.Codec.injective_text, Json.Codec.injective_text, Json.Codec.injective_whole _ _ _,
      Json.Codec.injective_list Json.Codec.injective_text,
      Json.Codec.injective_dictionary Json.Codec.injective_text, trivial⟩
  · rintro ⟨⟩ ⟨⟩ ⟨⟩
    rfl

end Descriptor

/-! ## Manifests -/

namespace Manifest

variable {m n : Manifest}

/-- Manifests that differ at most in the order of annotations. -/
structure Alike (m n : Manifest) : Prop where
  schemaVersion : m.schemaVersion = n.schemaVersion
  mediaType : m.mediaType = n.mediaType
  config : m.config.Alike n.config
  layers : List.Forall₂ Descriptor.Alike m.layers n.layers
  artifactType : m.artifactType = n.artifactType
  /-- The annotations are the same, as maps. -/
  annotations : m.annotations.map Dictionary.get? = n.annotations.map Dictionary.get?

theorem equivalence_alike : Equivalence Alike where
  refl m := ⟨rfl, rfl, Descriptor.equivalence_alike.refl _,
    List.forall₂_same.mpr fun d _ => Descriptor.equivalence_alike.refl d, rfl, rfl⟩
  symm same := ⟨same.schemaVersion.symm, same.mediaType.symm,
    Descriptor.equivalence_alike.symm same.config,
    (same.layers.imp fun _ _ => Descriptor.equivalence_alike.symm).flip,
    same.artifactType.symm, same.annotations.symm⟩
  trans := by
    have listed {ds es fs : List Descriptor} (first : List.Forall₂ Descriptor.Alike ds es)
        (second : List.Forall₂ Descriptor.Alike es fs) : List.Forall₂ Descriptor.Alike ds fs := by
      induction first generalizing fs with
      | nil => exact second
      | cons here _ ih =>
          cases second with
          | cons there rest => exact .cons (Descriptor.equivalence_alike.trans here there) (ih rest)
    intro m n o first second
    exact ⟨first.schemaVersion.trans second.schemaVersion, first.mediaType.trans second.mediaType,
      Descriptor.equivalence_alike.trans first.config second.config,
      listed first.layers second.layers, first.artifactType.trans second.artifactType,
      first.annotations.trans second.annotations⟩

theorem Alike.blobs (same : m.Alike n) : List.Forall₂ Descriptor.Alike m.blobs n.blobs :=
  .cons same.config same.layers

theorem Alike.digests (same : m.Alike n) :
    m.blobs.map Descriptor.digest = n.blobs.map Descriptor.digest := by
  rw [← List.forall₂_eq_eq_eq, List.forall₂_map_left_iff, List.forall₂_map_right_iff]
  exact same.blobs.imp fun _ _ alike => alike.digest

/-- The numbers of a manifest are in the ranges of their types, eight bits for the version and 64
bits for sizes. -/
structure InRange (m : Manifest) : Prop where
  schemaVersion : m.schemaVersion < 2 ^ 8
  blobs : ∀ blob ∈ m.blobs, blob.InRange

theorem Alike.inRange (same : m.Alike n) (range : m.InRange) : n.InRange where
  schemaVersion := same.schemaVersion ▸ range.schemaVersion
  blobs := by
    refine forall_mem_of_forall₂ same.blobs fun blob member other alike => ?_
    unfold Descriptor.InRange
    rw [← alike.size]
    exact range.blobs blob member

theorem keeps_codec (range : m.InRange) : codec.Keeps m := by
  obtain ⟨config, layers⟩ := List.forall_mem_cons.mp range.blobs
  refine Json.Codec.keeps_via (Json.Codec.keeps_record (by decide)
    ⟨Json.Codec.keeps_byte range.schemaVersion, ?_, Descriptor.keeps_codec config, ?_, ?_, ?_,
      trivial⟩) rfl
  · exact fun mediaType _ => Json.Codec.keeps_text mediaType
  · exact Json.Codec.keeps_list fun blob member => Descriptor.keeps_codec (layers blob member)
  · exact fun artifactType _ => Json.Codec.keeps_text artifactType
  · exact fun annotations _ => Json.Codec.keeps_dictionary fun entry _ => Json.Codec.keeps_text _

/-- **Decoding.** In whatever order its annotations are written, the bytes of a manifest are a
document that is decoded as the manifest, and its descriptor has their digest and their number. -/
theorem decode_document (range : m.InRange) (written : m.Alike n) :
    (∃ value : Json.Value, n.encode = value.toText.toUTF8) ∧
      (∃ read, codec.decode n.encode.toList = .ok read ∧ m.Alike read) ∧
      n.descriptor.digest = Digest.ofBytes n.encode ∧ n.descriptor.size = n.encode.size := by
  have read : codec.decode n.encode.toList = .ok n :=
    Json.Codec.decode_encode (keeps_codec (written.inRange range))
  exact ⟨⟨codec.write n, rfl⟩, ⟨n, read, written⟩, rfl, rfl⟩

/-- Texts that must be escaped, fields that are there with nothing in them, and annotations that are
written the other way round. -/
theorem decode_document_turned :
    let annotations : Dictionary String := .ofList [("\"a\\", "\n\x01"), ("é", "")]
    let turned : Dictionary String := .ofList [("é", ""), ("\"a\\", "\n\x01")]
    let config : Descriptor :=
      { mediaType := "", digest := "", size := -(2 ^ 63), urls := some [], annotations := some {} }
    let blob (annotations : Dictionary String) : Descriptor :=
      { mediaType := "/", digest := "ß", size := 2 ^ 63 - 1, urls := some [""],
        annotations := some annotations }
    let manifest (annotations : Dictionary String) : Manifest :=
      { schemaVersion := 255, config, layers := [config, blob annotations],
        artifactType := some "\t", annotations := some annotations }
    let m := manifest annotations
    let n := manifest turned
    m.InRange ∧ m.Alike n ∧
      (∃ value : Json.Value, n.encode = value.toText.toUTF8) ∧
      (∃ read, codec.decode n.encode.toList = .ok read ∧ m.Alike read) ∧
      n.descriptor.digest = Digest.ofBytes n.encode ∧ n.descriptor.size = n.encode.size := by
  intro annotations turned config blob manifest m n
  have range : m.InRange := by
    constructor
    · decide
    · unfold Descriptor.InRange
      decide
  have same : annotations.get? = turned.get? := Dictionary.get?_eq_iff.mpr (List.Perm.swap _ _ _)
  have layer : (blob annotations).Alike (blob turned) :=
    ⟨rfl, rfl, rfl, rfl, congrArg some same⟩
  have alike : m.Alike n :=
    ⟨rfl, rfl, Descriptor.equivalence_alike.refl config,
      .cons (Descriptor.equivalence_alike.refl config) (.cons layer .nil), rfl,
      congrArg some same⟩
  exact ⟨range, alike, decode_document range alike⟩

theorem injective_codec : Function.Injective codec.write := by
  refine Json.Codec.injective_via (Json.Codec.injective_record (by decide) ?_) ?_ _
  · exact ⟨Json.Codec.injective_byte, Json.Codec.injective_text, Descriptor.injective_codec,
      Json.Codec.injective_list Descriptor.injective_codec, Json.Codec.injective_text,
      Json.Codec.injective_dictionary Json.Codec.injective_text, trivial⟩
  · rintro ⟨⟩ ⟨⟩ ⟨⟩
    rfl

/-- **Encoding.** The bytes of a document tell the manifest, with the order of annotations. -/
theorem encode_injective : Function.Injective encode :=
  Json.Codec.encode_injective injective_codec

end Manifest

end BpfDepot
