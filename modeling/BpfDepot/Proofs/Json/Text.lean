import Mathlib.Tactic.IntervalCases
import BpfDepot.Json.Reader
import BpfDepot.Json.Value

/-! # Reading what was written between quotation marks

A text is written with escapes and read back byte by byte. The bytes of a plain
character are all taken as they are (`Json.Reader.textBytes_plain`), an escape gives
the character that it was made for (`Json.Reader.textBytes_escape`), and so a quoted
text reads as itself up to its closing mark (`Json.Reader.text_quote`).
-/

namespace BpfDepot.Json

/-! ## Bytes -/

/-- The bytes of characters. -/
def bytesOf (cs : List Char) : List UInt8 := cs.flatMap String.utf8EncodeChar

@[simp] theorem bytesOf_nil : bytesOf [] = [] := rfl

theorem bytesOf_cons (c : Char) (cs : List Char) :
    bytesOf (c :: cs) = String.utf8EncodeChar c ++ bytesOf cs := rfl

@[simp] theorem bytesOf_append (cs ds : List Char) :
    bytesOf (cs ++ ds) = bytesOf cs ++ bytesOf ds := List.flatMap_append

/-- A character of the first block is its own byte. -/
theorem utf8EncodeChar_of_lt {c : Char} (small : c.toNat < 0x80) :
    String.utf8EncodeChar c = [Reader.code c] := by
  have below : c.val.toNat ≤ 0x7f := Nat.lt_succ_iff.mp small
  simp only [String.utf8EncodeChar, below, ↓reduceIte]
  rfl

theorem bytesOf_cons_of_lt {c : Char} (small : c.toNat < 0x80) (cs : List Char) :
    bytesOf (c :: cs) = Reader.code c :: bytesOf cs := by
  rw [bytesOf_cons, utf8EncodeChar_of_lt small]
  rfl

theorem le_of_mem_utf8EncodeChar {c : Char} (large : 0x80 ≤ c.toNat) {b : UInt8}
    (member : b ∈ String.utf8EncodeChar c) : 0x80 ≤ b := by
  have beyond : ¬ c.val.toNat ≤ 0x7f := Nat.not_le.mpr large
  have high (n : Nat) (least : 0x80 ≤ n) (most : n < 0x100) : 0x80 ≤ UInt8.ofNat n := by
    rw [UInt8.le_iff_toNat_le, UInt8.toNat_ofNat_of_lt' most]
    exact least
  simp only [String.utf8EncodeChar, beyond, ↓reduceIte] at member
  split at member
  · simp only [List.mem_cons, List.not_mem_nil, or_false] at member
    rcases member with rfl | rfl <;> exact high _ (by omega) (by omega)
  · split at member
    · simp only [List.mem_cons, List.not_mem_nil, or_false] at member
      rcases member with rfl | rfl | rfl <;> exact high _ (by omega) (by omega)
    · simp only [List.mem_cons, List.not_mem_nil, or_false] at member
      rcases member with rfl | rfl | rfl | rfl <;> exact high _ (by omega) (by omega)

/-- Listing a byte array starts at a place and puts what was listed before in front. -/
theorem toList_loop (bytes : ByteArray) (i : Nat) (listed : List UInt8) :
    ByteArray.toList.loop bytes i listed = listed.reverse ++ bytes.data.toList.drop i := by
  fun_induction ByteArray.toList.loop bytes i listed with
  | case1 i listed inside ih =>
      have within : i < bytes.data.toList.length := by simpa using inside
      rw [ih, List.drop_eq_getElem_cons within]
      simp [ByteArray.get!, inside]
  | case2 i listed outside =>
      rw [List.drop_eq_nil_of_le (by simpa using Nat.le_of_not_lt outside), List.append_nil]

theorem toList_toByteArray (bytes : List UInt8) : bytes.toByteArray.toList = bytes := by
  unfold ByteArray.toList
  rw [toList_loop, List.toList_data_toByteArray]
  rfl

theorem toByteArray_eq (s : String) : s.toByteArray = (bytesOf s.toList).toByteArray :=
  String.utf8Encode_toList.symm

theorem toList_toUTF8 (s : String) : s.toUTF8.toList = bytesOf s.toList := by
  rw [String.toUTF8_eq_toByteArray, toByteArray_eq, toList_toByteArray]

/-- The bytes of a string are those of no other string. -/
theorem fromUTF8?_bytesOf (s : String) :
    String.fromUTF8? (ByteArray.mk (bytesOf s.toList).toArray) = some s := by
  have same : ByteArray.mk (bytesOf s.toList).toArray = s.toByteArray := by
    rw [toByteArray_eq]
    exact ByteArray.ext List.data_toByteArray.symm
  unfold String.fromUTF8?
  rw [same, dif_pos s.isValidUTF8]
  rfl

namespace Reader

variable {α β : Type}

/-! ## Steps -/

theorem bind_of_ok {step : Reader α} {bytes left : List UInt8} {a : α}
    (taken : step bytes = (.ok a, left)) (next : α → Reader β) :
    (step >>= next) bytes = next a left := by
  simp only [bind, ExceptT.bind, ExceptT.mk, StateT.bind, taken]
  rfl

theorem map_of_ok {step : Reader α} {bytes left : List UInt8} {a : α}
    (taken : step bytes = (.ok a, left)) (convert : α → β) :
    (convert <$> step) bytes = (.ok (convert a), left) := by
  simp only [Functor.map, ExceptT.map, ExceptT.mk, bind, StateT.bind, taken]
  rfl

theorem take?_cons (b : UInt8) (left : List UInt8) : take? (b :: left) = (.ok (some b), left) := rfl

/-! ## Texts -/

/-- One byte that is no mark and no control is taken as it is. -/
theorem textBytes_cons (fuel : Nat) (taken left : List UInt8) {b : UInt8} (noQuote : b ≠ code '"')
    (noEscape : b ≠ code '\\') (noControl : ¬ b < 0x20) :
    textBytes (fuel + 1) taken (b :: left) = textBytes fuel (b :: taken) left := by
  rw [textBytes, bind_of_ok (take?_cons b left)]
  simp only [noQuote, noEscape, noControl, ↓reduceIte]

/-- Bytes that are no marks and no controls are taken as they are. -/
theorem textBytes_plain (fuel : Nat) (left : List UInt8) {plain : List UInt8}
    (allowed : ∀ b ∈ plain, b ≠ code '"' ∧ b ≠ code '\\' ∧ ¬ b < 0x20) (taken : List UInt8) :
    textBytes (plain.length + fuel) taken (plain ++ left) =
      textBytes fuel (plain.reverse ++ taken) left := by
  induction plain generalizing taken with
  | nil =>
      rw [List.length_nil, Nat.zero_add]
      rfl
  | cons b plain ih =>
      obtain ⟨noQuote, noEscape, noControl⟩ := allowed b List.mem_cons_self
      rw [List.length_cons, Nat.add_right_comm, List.cons_append,
        textBytes_cons _ _ _ noQuote noEscape noControl,
        ih fun b member => allowed b (List.mem_cons_of_mem _ member),
        List.reverse_cons, List.append_assoc]
      rfl

theorem textBytes_quote (fuel : Nat) (taken left : List UInt8) :
    textBytes (fuel + 1) taken (code '"' :: left) = (.ok taken.reverse, left) := by
  rw [textBytes, bind_of_ok (take?_cons (code '"') left)]
  rfl

/-- A backslash begins an escape, which gives one character. -/
theorem textBytes_backslash (fuel : Nat) (taken : List UInt8) {after left : List UInt8} {c : Char}
    (read : escaped after = (.ok c, left)) :
    textBytes (fuel + 1) taken (code '\\' :: after) =
      textBytes fuel ((String.utf8EncodeChar c).reverse ++ taken) left := by
  have bytes : (String.singleton c).toUTF8.toList = String.utf8EncodeChar c := by
    rw [toList_toUTF8, String.toList_singleton, bytesOf_cons, bytesOf_nil, List.append_nil]
  rw [textBytes, bind_of_ok (take?_cons (code '\\') after)]
  have marks : code '\\' ≠ code '"' := by decide
  simp only [marks, ↓reduceIte]
  rw [bind_of_ok read, bytes]

/-- An escape below the first printed character is read as the character it was made for. -/
theorem escaped_control : ∀ n < 0x20, ∃ tail, escape (Char.ofNat n) = '\\' :: tail ∧
    ∀ left, escaped (bytesOf tail ++ left) = (.ok (Char.ofNat n), left) := by
  intro n small
  interval_cases n <;> exact ⟨_, rfl, fun _ => rfl⟩

/-- A character is written as itself, or with an escape that is read as the character. -/
theorem escape_cases (c : Char) :
    (escape c = [c] ∧ c ≠ '"' ∧ c ≠ '\\' ∧ 0x20 ≤ c.toNat) ∨
      ∃ tail, escape c = '\\' :: tail ∧ ∀ left, escaped (bytesOf tail ++ left) = (.ok c, left) := by
  by_cases control : c.toNat < 0x20
  · right
    rw [← Char.ofNat_toNat c]
    exact escaped_control c.toNat control
  by_cases quote : c = '"'
  · right
    subst quote
    exact ⟨_, rfl, fun _ => rfl⟩
  by_cases backslash : c = '\\'
  · right
    subst backslash
    exact ⟨_, rfl, fun _ => rfl⟩
  · left
    refine ⟨?_, quote, backslash, Nat.le_of_not_lt control⟩
    unfold escape
    split <;> simp_all

/-- The bytes of a character that is written as itself are no marks and no controls. -/
theorem plain_utf8EncodeChar {c : Char} (noQuote : c ≠ '"') (noEscape : c ≠ '\\')
    (printed : 0x20 ≤ c.toNat) :
    ∀ b ∈ String.utf8EncodeChar c, b ≠ code '"' ∧ b ≠ code '\\' ∧ ¬ b < 0x20 := by
  intro b member
  by_cases small : c.toNat < 0x80
  · rw [utf8EncodeChar_of_lt small, List.mem_singleton] at member
    subst member
    have back : (code c).toNat = c.toNat :=
      UInt8.toNat_ofNat_of_lt' (Nat.lt_trans small (by decide))
    have differs (d : Char) (below : d.toNat < 0x80) (ne : c ≠ d) : code c ≠ code d := by
      intro same
      apply ne
      have there : (code d).toNat = d.toNat :=
        UInt8.toNat_ofNat_of_lt' (Nat.lt_trans below (by decide))
      exact Char.toNat_inj.mp (by rw [← back, ← there, same])
    refine ⟨differs '"' (by decide) noQuote, differs '\\' (by decide) noEscape, ?_⟩
    rw [UInt8.lt_iff_toNat_lt, back]
    exact Nat.not_lt.mpr printed
  · have beyond := le_of_mem_utf8EncodeChar (Nat.le_of_not_lt small) member
    have apart (d : UInt8) (below : d < 0x80) : b ≠ d := by
      rintro rfl
      exact absurd beyond (UInt8.not_le.mpr below)
    refine ⟨apart _ (by decide), apart _ (by decide), fun below => ?_⟩
    exact absurd (UInt8.lt_of_lt_of_le below (by decide : (0x20 : UInt8) ≤ 0x80))
      (UInt8.not_lt.mpr beyond)

/-- The escapes of characters are read as the characters up to the closing mark. The
fuel need not exceed the number of bytes. -/
theorem textBytes_escape (cs : List Char) (left : List UInt8) :
    ∀ fuel taken, (bytesOf (cs.flatMap escape)).length < fuel →
      textBytes fuel taken (bytesOf (cs.flatMap escape) ++ code '"' :: left) =
        (.ok (taken.reverse ++ bytesOf cs), left) := by
  induction cs with
  | nil =>
      intro fuel taken enough
      obtain ⟨fuel, rfl⟩ := Nat.exists_eq_succ_of_ne_zero (Nat.ne_of_gt enough)
      rw [bytesOf_nil, List.append_nil]
      exact textBytes_quote fuel taken left
  | cons c cs ih =>
      intro fuel taken enough
      rw [List.flatMap_cons, bytesOf_append, List.append_assoc]
      rw [List.flatMap_cons, bytesOf_append, List.length_append] at enough
      rcases escape_cases c with ⟨same, noQuote, noEscape, printed⟩ | ⟨tail, written, read⟩
      · rw [same] at enough ⊢
        have whole : bytesOf [c] = String.utf8EncodeChar c := List.append_nil _
        rw [whole] at enough ⊢
        obtain ⟨more, rfl⟩ := Nat.exists_eq_add_of_lt
          (Nat.lt_of_le_of_lt (Nat.le_add_right _ _) enough)
        rw [Nat.add_assoc, textBytes_plain _ _ (plain_utf8EncodeChar noQuote noEscape printed),
          ih _ _ (by omega), List.reverse_append, List.reverse_reverse, bytesOf_cons,
          List.append_assoc]
      · rw [written] at enough ⊢
        rw [bytesOf_cons_of_lt (by decide), List.length_cons] at enough
        rw [bytesOf_cons_of_lt (by decide), List.cons_append]
        obtain ⟨fuel, rfl⟩ :=
          Nat.exists_eq_succ_of_ne_zero (Nat.ne_of_gt (Nat.zero_lt_of_lt enough))
        rw [textBytes_backslash fuel taken (read _), ih _ _ (by omega), List.reverse_append,
          List.reverse_reverse, bytesOf_cons, List.append_assoc]

/-- **Quoted texts.** What stands between the marks of a quoted text is read as the text. -/
theorem text_quote (s : String) (left : List UInt8) :
    text (bytesOf (s.toList.flatMap escape) ++ code '"' :: left) = (.ok s, left) := by
  let whole := bytesOf (s.toList.flatMap escape) ++ code '"' :: left
  have start : Reader.left whole = (.ok whole, whole) := rfl
  have inside : (bytesOf (s.toList.flatMap escape)).length < whole.length + 1 := by
    simp only [whole, List.length_append]
    omega
  unfold text
  rw [bind_of_ok start, bind_of_ok (textBytes_escape s.toList left _ [] inside),
    List.reverse_nil, List.nil_append, fromUTF8?_bytesOf]
  rfl

end Reader

theorem bytesOf_quote (s : String) (after : List Char) :
    bytesOf (quote s ++ after) =
      Reader.code '"' ::
        (bytesOf (s.toList.flatMap escape) ++ Reader.code '"' :: bytesOf after) := by
  unfold quote
  rw [List.cons_append, List.cons_append, bytesOf_cons_of_lt (by decide), List.append_assoc,
    bytesOf_append, List.singleton_append, bytesOf_cons_of_lt (by decide)]

end BpfDepot.Json
