import BpfDepot.Proofs.Dictionary
import BpfDepot.Proofs.Json.Record

/-! # Dictionaries survive their documents

The entries of a dictionary are read one after the other and bound in the order in which they
stand (`Json.Codec.bindings_laid`). No key of a dictionary stands there twice, so the entries
make the dictionary again, and a dictionary is kept if its values are
(`Json.Codec.keeps_dictionary`).
-/

namespace BpfDepot.Json.Codec

open Reader

variable {α : Type} {codec : Codec α}

/-- The entries of an object that a dictionary is written as. -/
def written (codec : Codec α) (entries : List (String × α)) : List (String × Value) :=
  entries.map fun entry => (entry.1, codec.write entry.2)

/-- **Entries of a dictionary.** Entries whose values are kept are read and bound one after the
other up to the closing bracket. The fuel need not exceed the number of bytes. -/
theorem bindings_laid (layout : Layout) (level : Nat) {gap : List Char} (blank : Blanks gap)
    (left : List UInt8) {entries : List (String × α)}
    (kept : ∀ entry ∈ entries, codec.Keeps entry.2) :
    ∀ (first : Bool) (fuel : Nat) (d : Dictionary α),
      (bytesOf (laidEntries layout level first (codec.written entries))).length < fuel →
      bindings codec.read fuel first d
          (bytesOf (laidEntries layout level first (codec.written entries)) ++
            (bytesOf gap ++ code '\x7d' :: left)) =
        (.ok (entries.foldl (fun d entry => d.insert entry.1 entry.2) d), code '\x7d' :: left) := by
  induction entries with
  | nil =>
      intro first fuel d enough
      obtain ⟨fuel, rfl⟩ := Nat.exists_eq_succ_of_ne_zero (Nat.ne_of_gt (Nat.zero_lt_of_lt enough))
      rw [written, List.map_nil, laidEntries, bytesOf_nil, List.nil_append, bindings,
        bind_of_ok (Fields.key?_end first blank left)]
      rfl
  | cons entry rest ih =>
      intro first fuel d enough
      obtain ⟨fuel, rfl⟩ := Nat.exists_eq_succ_of_ne_zero (Nat.ne_of_gt (Nat.zero_lt_of_lt enough))
      have bytes (cs : List Char) : bytesOf (':' :: cs) = code ':' :: bytesOf cs :=
        bytesOf_cons_of_lt (by decide) cs
      have read := (kept entry List.mem_cons_self).reads layout level layout.space _
        layout.blanks_space (Fields.ends_laidEntries layout level (codec.written rest) blank left)
      have further := ih fun other member => kept other (List.mem_cons_of_mem _ member)
      rw [written, List.map_cons, ← written, laidEntries] at enough ⊢
      simp only [bytesOf_append, bytes, List.length_append, List.length_cons, List.append_assoc,
        List.cons_append] at enough ⊢
      rw [bindings, bind_of_ok (Fields.key?_quote first (layout.blanks_gap level) entry.1 _)]
      simp only
      rw [bind_of_ok (Fields.colon_cons _), bind_of_ok read, List.foldl_cons]
      exact further false fuel _ (by omega)

/-- **Dictionaries.** A dictionary is kept if its values are. -/
theorem keeps_dictionary {d : Dictionary α} (kept : ∀ entry ∈ d.entries, codec.Keeps entry.2) :
    codec.dictionary.Keeps d where
  opens layout level := by
    obtain ⟨gap, -, bytes⟩ := laid_object layout level (codec.written d.entries)
    exact ⟨code '\x7b', _, bytes, rfl, by decide, by decide⟩
  reads layout level front left blank _ := by
    obtain ⟨gap, ending, bytes⟩ := laid_object layout level (codec.written d.entries)
    have object : codec.dictionary.write d = .object (codec.written d.entries) := rfl
    rw [object, bytes]
    simp only [dictionary]
    rw [List.cons_append, bind_of_ok (firstByte_blanks blank rfl _)]
    simp only [↓reduceIte]
    rw [bind_of_ok (drop_cons _ _)]
    refine closed_of_ok ?_ (objectEnd_cons left)
    rw [List.append_assoc, List.append_assoc, List.singleton_append]
    let inside := bytesOf (laidEntries layout (level + 1) true (codec.written d.entries)) ++
      (bytesOf gap ++ code '\x7d' :: left)
    have start : Reader.left inside = (.ok inside, inside) := rfl
    have enough : (bytesOf (laidEntries layout (level + 1) true (codec.written d.entries))).length <
        inside.length + 1 := by
      simp only [inside, List.length_append]
      omega
    have whole := bindings_laid layout (level + 1) ending left kept true _ {} enough
    rw [show d.entries.foldl (fun d entry => d.insert entry.1 entry.2) {} = d from
      d.ofList_entries] at whole
    rw [bind_of_ok start]
    exact whole

end BpfDepot.Json.Codec
