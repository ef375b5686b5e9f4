import Mathlib.Data.String.Basic
import BpfDepot.Proofs.Json.Text

/-! # The order of texts is that of their bytes

Texts are compared character by character. Their bytes compare alike
(`Text.lt_iff_bytes_lt`): of two characters the later one has the later bytes, and already
before the bytes of either of them end (`Text.before_utf8EncodeChar`).
-/

namespace BpfDepot.Text

open Json

variable {first second : List UInt8}

/-- One list comes before another, whatever follows them. -/
def Before (first second : List UInt8) : Prop := ∀ rest more, first ++ rest < second ++ more

theorem before_cons_of_lt {m n : Nat} (less : m < n) (byte : n < 256) :
    Before (UInt8.ofNat m :: first) (UInt8.ofNat n :: second) := by
  intro rest more
  rw [List.cons_append, List.cons_append, List.cons_lt_cons_iff, UInt8.lt_iff_toNat_lt,
    UInt8.toNat_ofNat_of_lt' (less.trans byte), UInt8.toNat_ofNat_of_lt' byte]
  exact Or.inl less

theorem before_cons {m n : Nat} (most : m ≤ n) (byte : n < 256)
    (further : m = n → Before first second) :
    Before (UInt8.ofNat m :: first) (UInt8.ofNat n :: second) := by
  rcases Nat.lt_or_eq_of_le most with less | same
  · exact before_cons_of_lt less byte
  · intro rest more
    rw [same, List.cons_append, List.cons_append, List.cons_lt_cons_iff]
    exact Or.inr ⟨rfl, further same rest more⟩

/-- **Characters.** A later character has later bytes. Its first byte is later if it has more of
them, and else the first one in which they differ. -/
theorem before_utf8EncodeChar {c d : Char} (less : c < d) :
    Before (String.utf8EncodeChar c) (String.utf8EncodeChar d) := by
  have less : c.val.toNat < d.val.toNat := UInt32.lt_iff_toNat_lt.mp less
  have last : d.val.toNat < 0x110000 := by
    have valid := d.valid
    simp only [UInt32.isValidChar, Nat.isValidChar] at valid
    omega
  simp only [String.utf8EncodeChar]
  split_ifs
  -- the later character has no fewer bytes, and if it has more the first one tells
  all_goals first
    | omega
    | exact before_cons_of_lt (by omega) (by omega)
    | skip
  case pos => exact before_cons (by omega) (by omega) fun _ =>
      before_cons_of_lt (by omega) (by omega)
  case pos => exact before_cons (by omega) (by omega) fun _ =>
      before_cons (by omega) (by omega) fun _ => before_cons_of_lt (by omega) (by omega)
  case neg => exact before_cons (by omega) (by omega) fun _ =>
      before_cons (by omega) (by omega) fun _ => before_cons (by omega) (by omega) fun _ =>
        before_cons_of_lt (by omega) (by omega)

theorem bytesOf_lt_of_lt {cs ds : List Char} (less : cs < ds) : bytesOf cs < bytesOf ds := by
  induction less with
  | @nil d ds =>
    have bytes : String.utf8EncodeChar d ≠ [] := String.utf8EncodeChar_ne_nil
    obtain ⟨b, rest, same⟩ := List.exists_cons_of_ne_nil bytes
    rw [bytesOf_cons, same]
    exact List.nil_lt_cons _ _
  | rel less => exact before_utf8EncodeChar less _ _
  | cons _ step => exact List.append_left_lt step

/-- **The order of texts** is that of their bytes. -/
theorem lt_iff_bytes_lt {s t : String} : s < t ↔ s.toUTF8.toList < t.toUTF8.toList := by
  rw [toList_toUTF8, toList_toUTF8]
  refine ⟨bytesOf_lt_of_lt, fun less => ?_⟩
  rcases lt_trichotomy s t with before | same | behind
  · exact before
  · exact absurd (same ▸ less) (List.lt_irrefl _)
  · exact absurd (bytesOf_lt_of_lt behind) (List.lt_asymm less)

end BpfDepot.Text
