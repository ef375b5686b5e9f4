import BpfDepot.Proofs.Json.Record
import BpfDepot.Proofs.Json.Unambiguous

/-! # Documents tell their values

A codec that writes different values differently gives them different documents
(`Json.Codec.encode_injective`). The codecs of texts and numbers are such codecs, and so are
those of lists, dictionaries and records that are put together from such codecs
(`Json.Codec.injective_record`): a field that is absent has no entry, and no other field has an
entry of its name.
-/

namespace BpfDepot.Json.Codec

open Function (Injective)

variable {α β : Type} {codec : Codec α}

/-- **Encoding.** A codec that writes different values differently gives them different bytes. -/
theorem encode_injective (told : Injective codec.write) :
    Injective fun a => (codec.encode a).toUTF8 := fun _ _ same => told (write_eq_of_encode same)

theorem injective_via (told : Injective codec.write) {forth : β → α} (apart : Injective forth)
    (back : α → β) : Injective (codec.via forth back).write := told.comp apart

theorem injective_text : Injective text.write := fun _ _ same => Value.text.inj same

theorem injective_whole (low high : Int) (name : String) :
    Injective (whole low high name).write := fun _ _ same => Value.number.inj same

theorem injective_byte : Injective byte.write :=
  injective_via (injective_whole _ _ _) (fun _ _ same => Int.ofNat.inj same) _

theorem injective_list (told : Injective codec.write) : Injective codec.list.write :=
  fun _ _ same => (List.map_inj_right fun _ _ items => told items).mp (Value.list.inj same)

theorem injective_dictionary (told : Injective codec.write) : Injective codec.dictionary.write := by
  rintro ⟨entries, _⟩ ⟨others, _⟩ same
  have one (entry other : String × α)
      (alike : (entry.1, codec.write entry.2) = (other.1, codec.write other.2)) : entry = other :=
    Prod.ext (Prod.mk.inj alike).1 (told (Prod.mk.inj alike).2)
  obtain rfl : entries = others := (List.map_inj_right one).mp (Value.object.inj same)
  rfl

/-! ## Records -/

namespace Fields

/-- The codecs of all fields write different values differently. -/
def Tell : {σ α : Type} → Fields σ α → Prop
  | _, _, .nil => True
  | _, _, .required _ codec rest => Injective codec.write ∧ rest.Tell
  | _, _, .optional _ codec rest => Injective codec.write ∧ rest.Tell

/-- Every entry has the name of a field. -/
theorem name_mem {σ α : Type} (fields : Fields σ α) (a : α) {entry : String × Value}
    (member : entry ∈ fields.entries a) : entry.1 ∈ fields.names := by
  induction fields with
  | nil => cases member
  | required name codec rest ih =>
      obtain ⟨b, a⟩ := a
      rcases List.mem_cons.mp member with rfl | further
      · exact List.mem_cons_self
      · exact List.mem_cons_of_mem _ (ih a further)
  | optional name codec rest ih =>
      obtain ⟨b, a⟩ := a
      cases b with
      | none => exact List.mem_cons_of_mem _ (ih a member)
      | some b =>
          rcases List.mem_cons.mp member with rfl | further
          · exact List.mem_cons_self
          · exact List.mem_cons_of_mem _ (ih a further)

/-- **Entries of a record** tell which fields are absent and what the others are. -/
theorem entries_injective {σ α : Type} {fields : Fields σ α} (distinct : fields.names.Nodup)
    (told : fields.Tell) : Injective fields.entries := by
  induction fields with
  | nil => exact fun _ _ _ => rfl
  | required name codec rest ih =>
      rintro ⟨b, a⟩ ⟨c, d⟩ same
      obtain ⟨values, further⟩ := List.cons.inj same
      rw [told.1 (Prod.mk.inj values).2, ih (List.nodup_cons.mp distinct).2 told.2 further]
  | optional name codec rest ih =>
      obtain ⟨apart, distinct⟩ := List.nodup_cons.mp distinct
      -- the entry of the field cannot be taken for an entry behind it
      have absent (value : Value) (more : List (String × Value)) (a : _) :
          rest.entries a ≠ (name, value) :: more := fun same =>
        apart (rest.name_mem a (same ▸ List.mem_cons_self))
      rintro ⟨b, a⟩ ⟨c, d⟩ same
      cases b with
      | none =>
          cases c with
          | none => rw [ih distinct told.2 same]
          | some c => exact absurd same (absent _ _ _)
      | some b =>
          cases c with
          | none => exact absurd same.symm (absent _ _ _)
          | some c =>
              obtain ⟨values, further⟩ := List.cons.inj same
              rw [told.1 (Prod.mk.inj values).2, ih distinct told.2 further]

end Fields

/-- **Records.** A record whose fields have different names tells its fields. -/
theorem injective_record {σ : Type} {name : String} {fields : Fields σ α}
    (distinct : fields.names.Nodup) (told : fields.Tell) : Injective (record name fields).write :=
  fun _ _ same => Fields.entries_injective distinct told (Value.object.inj same)

end BpfDepot.Json.Codec
