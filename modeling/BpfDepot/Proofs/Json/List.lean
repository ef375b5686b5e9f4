import BpfDepot.Proofs.Json.Record

/-! # Lists survive their documents

The items of a list are read one after the other, each behind the comma and the blanks
before it (`Json.Codec.items_laid`), up to the bracket that closes the list. So a list is
kept if its items are (`Json.Codec.keeps_list`).
-/

namespace BpfDepot.Json.Codec

open Reader

variable {α : Type} {codec : Codec α}

/-- A list goes on where an item stands, and the item is left to be read. -/
theorem another_item (first : Bool) {gap : List Char} (blank : Blanks gap) {b : UInt8}
    (part : isBlank b = false) (inner : b ≠ code ']') (left : List UInt8) :
    another first (bytesOf (comma first) ++ (bytesOf gap ++ b :: left)) =
      (.ok true, b :: left) := by
  have found := nextPart?_blanks blank part left
  unfold another
  cases first with
  | true =>
      rw [show bytesOf (comma true) = [] from rfl, List.nil_append, bind_of_ok found]
      simp only [inner, ↓reduceIte]
      rfl
  | false =>
      have mark := nextPart?_blanks blanks_nil (b := code ',') rfl (bytesOf gap ++ b :: left)
      have noEnd : code ',' ≠ code ']' := by decide
      rw [bytesOf_nil, List.nil_append] at mark
      rw [show bytesOf (comma false) = [code ','] from rfl, List.singleton_append,
        bind_of_ok mark]
      simp only [noEnd, ↓reduceIte, Bool.false_eq_true]
      rw [bind_of_ok (drop_cons _ _), bind_of_ok found]
      simp only [inner, ↓reduceIte]
      rfl

theorem another_end (first : Bool) {gap : List Char} (blank : Blanks gap) (left : List UInt8) :
    another first (bytesOf gap ++ code ']' :: left) = (.ok false, code ']' :: left) := by
  unfold another
  rw [bind_of_ok (nextPart?_blanks blank (b := code ']') rfl left)]
  rfl

/-- What is behind an item may stand after a value. -/
theorem ends_laidItems (layout : Layout) (level : Nat) (items : List Value) {gap : List Char}
    (blank : Blanks gap) (left : List UInt8) :
    Ends (bytesOf (laidItems layout level false items) ++ (bytesOf gap ++ code ']' :: left)) := by
  intro b first
  cases items with
  | nil =>
      rw [laidItems, bytesOf_nil, List.nil_append] at first
      cases bytes : bytesOf gap with
      | nil =>
          rw [bytes] at first
          obtain rfl := Option.some.inj first
          exact Or.inr (Or.inr (Or.inl rfl))
      | cons c more =>
          rw [bytes] at first
          obtain rfl := Option.some.inj first
          exact Or.inl (blank c (bytes ▸ List.mem_cons_self))
  | cons item items =>
      rw [laidItems, comma, bytesOf_append] at first
      obtain rfl := Option.some.inj first
      exact Or.inr (Or.inl rfl)

/-- **Items of a list.** Items that are kept are read one after the other up to the closing
bracket. The fuel need not exceed the number of bytes. -/
theorem items_laid (layout : Layout) (level : Nat) {gap : List Char} (blank : Blanks gap)
    (left : List UInt8) {as : List α} (kept : ∀ a ∈ as, codec.Keeps a) :
    ∀ (first : Bool) (fuel : Nat),
      (bytesOf (laidItems layout level first (as.map codec.write))).length < fuel →
      items codec.read fuel first (bytesOf (laidItems layout level first (as.map codec.write)) ++
          (bytesOf gap ++ code ']' :: left)) = (.ok as, code ']' :: left) := by
  induction as with
  | nil =>
      intro first fuel enough
      obtain ⟨fuel, rfl⟩ := Nat.exists_eq_succ_of_ne_zero (Nat.ne_of_gt (Nat.zero_lt_of_lt enough))
      rw [List.map_nil, laidItems, bytesOf_nil, List.nil_append, items,
        bind_of_ok (another_end first blank left)]
      rfl
  | cons a as ih =>
      intro first fuel enough
      obtain ⟨fuel, rfl⟩ := Nat.exists_eq_succ_of_ne_zero (Nat.ne_of_gt (Nat.zero_lt_of_lt enough))
      have here := kept a List.mem_cons_self
      have further := ih fun other member => kept other (List.mem_cons_of_mem _ member)
      obtain ⟨b, bytes, written, part, -, inner⟩ := here.opens layout level
      have read := here.reads layout level [] _ blanks_nil
        (ends_laidItems layout level (as.map codec.write) blank left)
      rw [List.map_cons, laidItems] at enough ⊢
      simp only [bytesOf_append, List.length_append, List.append_assoc] at enough ⊢
      rw [bytesOf_nil, List.nil_append, written, List.cons_append] at read
      rw [written, List.cons_append, items,
        bind_of_ok (another_item first (layout.blanks_gap level) part inner _)]
      simp only [↓reduceIte]
      have room : (bytesOf (laidItems layout level false (as.map codec.write))).length < fuel := by
        have one : 0 < (bytesOf ((codec.write a).laid layout level)).length := by
          rw [written]
          exact Nat.succ_pos _
        omega
      rw [bind_of_ok read, bind_of_ok (further false fuel room)]
      rfl

theorem listEnd_cons (left : List UInt8) : listEnd (code ']' :: left) = (.ok (), left) := by
  have found := nextPart?_blanks blanks_nil (b := code ']') rfl left
  rw [bytesOf_nil, List.nil_append] at found
  unfold listEnd
  rw [bind_of_ok found]
  rfl

/-- A list in a layout: its items between brackets, and blanks before the closing
bracket. -/
theorem laid_list (layout : Layout) (level : Nat) (items : List Value) :
    ∃ gap, Blanks gap ∧ bytesOf ((Value.list items).laid layout level) =
      code '[' :: (bytesOf (laidItems layout (level + 1) true items) ++
        (bytesOf gap ++ [code ']'])) := by
  have ending : bytesOf [']'] = [code ']'] := rfl
  cases items with
  | nil =>
      refine ⟨[], blanks_nil, ?_⟩
      rw [laidItems.eq_def, Value.laid]
      rfl
  | cons item items =>
      refine ⟨layout.gap level, layout.blanks_gap level, ?_⟩
      rw [Value.laid, bytesOf_cons_of_lt (by decide), bytesOf_append, bytesOf_append, ending]
      simp

/-- **Lists.** A list is kept if its items are. -/
theorem keeps_list {as : List α} (kept : ∀ a ∈ as, codec.Keeps a) : codec.list.Keeps as where
  opens layout level := by
    obtain ⟨gap, -, written⟩ := laid_list layout level (as.map codec.write)
    exact ⟨code '[', _, written, rfl, by decide, by decide⟩
  reads layout level front left blank _ := by
    obtain ⟨gap, ending, written⟩ := laid_list layout level (as.map codec.write)
    simp only [list]
    rw [written, List.cons_append, bind_of_ok (firstByte_blanks blank rfl _)]
    simp only [↓reduceIte]
    rw [bind_of_ok (drop_cons _ _)]
    refine closed_of_ok ?_ (listEnd_cons left)
    rw [List.append_assoc, List.append_assoc, List.singleton_append]
    let inside := bytesOf (laidItems layout (level + 1) true (as.map codec.write)) ++
      (bytesOf gap ++ code ']' :: left)
    have start : Reader.left inside = (.ok inside, inside) := rfl
    have enough : (bytesOf (laidItems layout (level + 1) true (as.map codec.write))).length <
        inside.length + 1 := by
      simp only [inside, List.length_append]
      omega
    rw [bind_of_ok start]
    exact items_laid layout (level + 1) ending left kept true _ enough

end BpfDepot.Json.Codec
