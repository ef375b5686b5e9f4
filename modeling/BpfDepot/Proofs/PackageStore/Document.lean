import BpfDepot.PackageStore
import BpfDepot.Proofs.Instant
import BpfDepot.Proofs.Json.List
import BpfDepot.Proofs.Json.Number

/-! # The index survives its document

An entry of the index that was made of a package in memory at a time of the clock is kept
by its codec (`StoredPackage.keeps_codec`), whatever its texts are. So the entries of an
index are read back from the document that is written of them, in the same order
(`PackageStore.decodeText_encodeLines`).
-/

namespace BpfDepot

/-- The number and the time of an entry are such that a document can hold them. -/
structure StoredPackage.Storable (entry : StoredPackage) : Prop where
  /-- The size is a number of 64 bits. -/
  size : entry.size < 2 ^ 64
  /-- The calendar has the time. -/
  created : entry.created.Valid

/-- **Entries.** Every part of an entry is read back. -/
theorem StoredPackage.keeps_codec {entry : StoredPackage} (storable : entry.Storable) :
    StoredPackage.codec.Keeps entry := by
  have time : StoredPackage.instantCodec.Keeps entry.created := by
    refine Json.Codec.keeps_checkedText ?_
    rw [Instant.parse_toText storable.created]
    rfl
  have path : Json.Codec.path.Keeps entry.path := Json.Codec.keeps_checkedText rfl
  refine Json.Codec.keeps_via (Json.Codec.keeps_record ?_ ?_) rfl
  · decide
  · exact ⟨Json.Codec.keeps_text _, Json.Codec.keeps_text _,
      Json.Codec.keeps_natural storable.size, Json.Codec.keeps_text _, time, path, trivial⟩

namespace PackageStore

/-- **The index.** Entries are read from the document that is written of them. -/
theorem decodeText_encodeLines {entries : List StoredPackage}
    (storable : ∀ entry ∈ entries, entry.Storable) :
    indexCodec.decodeText (indexCodec.encodeLines entries) = .ok entries := by
  have kept : indexCodec.Keeps entries := by
    refine Json.Codec.keeps_via (Json.Codec.keeps_record ?_ ?_) rfl
    · decide
    · exact ⟨Json.Codec.keeps_list fun entry member =>
        StoredPackage.keeps_codec (storable entry member), trivial⟩
  exact Json.Codec.decode_encodeLines kept

end PackageStore

end BpfDepot
