import BpfDepot.Json.Codec
import BpfDepot.Proofs.Json.Layout

/-! # Values that survive their documents

A codec keeps a value if the value is read back from its document in every layout
(`Json.Codec.Keeps`). Texts are kept, and a record is kept if each of its fields is
(`Json.Codec.keeps_record`); a value that is kept is decoded from what it is encoded
as (`Json.Codec.decode_encode`, `Json.Codec.decode_encodeLines`).
-/

namespace BpfDepot.Json.Codec

open Reader

variable {α β : Type}

/-- What may stand after a value: nothing, a blank, or a mark that ends the value. -/
def Ends (left : List UInt8) : Prop :=
  ∀ b, left.head? = some b → isBlank b = true ∨ b = code ',' ∨ b = code ']' ∨ b = code '\x7d'

/-- A value is read back from its document, in every layout and behind any blanks. -/
structure Keeps (codec : Codec α) (a : α) : Prop where
  /-- The document begins like a value that is present. -/
  opens : ∀ layout level, ∃ b bytes, bytesOf ((codec.write a).laid layout level) = b :: bytes ∧
    isBlank b = false ∧ b ≠ code 'n' ∧ b ≠ code ']'
  /-- The document is read as the value. -/
  reads : ∀ layout level front left, Blanks front → Ends left →
    codec.read (bytesOf front ++ (bytesOf ((codec.write a).laid layout level) ++ left)) =
      (.ok a, left)

/-! ## Blanks -/

theorem nextPart?_blanks {front : List Char} (blank : Blanks front) {b : UInt8}
    (part : isBlank b = false) (left : List UInt8) :
    nextPart? (bytesOf front ++ b :: left) = (.ok (some b), b :: left) := by
  have dropped : (bytesOf front ++ b :: left).dropWhile isBlank = b :: left := by
    rw [List.dropWhile_append_of_pos blank, List.dropWhile_cons_of_neg (by simp [part])]
  have skip : (modify (List.dropWhile isBlank) : Reader Unit) (bytesOf front ++ b :: left) =
      (.ok (), (bytesOf front ++ b :: left).dropWhile isBlank) := rfl
  rw [dropped] at skip
  unfold nextPart?
  rw [bind_of_ok skip]
  rfl

theorem firstByte_blanks {front : List Char} (blank : Blanks front) {b : UInt8}
    (part : isBlank b = false) (left : List UInt8) :
    firstByte (bytesOf front ++ b :: left) = (.ok b, b :: left) := by
  unfold firstByte
  rw [bind_of_ok (nextPart?_blanks blank part left)]
  rfl

theorem drop_cons (b : UInt8) (left : List UInt8) : drop (b :: left) = (.ok (), left) := rfl

theorem placed_of_ok {reader : Reader α} {bytes left : List UInt8} {a : α}
    (read : reader bytes = (.ok a, left)) : placed reader bytes = (.ok a, left) := by
  unfold placed
  rw [read]

theorem closed_of_ok {inside : Reader α} {close : Reader Unit} {bytes middle left : List UInt8}
    {a : α} (read : inside bytes = (.ok a, middle)) (ended : close middle = (.ok (), left)) :
    closed inside close bytes = (.ok a, left) := by
  unfold closed
  apply placed_of_ok
  simp only [read, ended]

/-! ## Texts and conversions -/

/-- A text is kept if its check gives back the value that it was made from. -/
theorem keeps_checkedText {expected : String} {toText : α → String}
    {ofText : String → Except String α} {a : α} (checked : ofText (toText a) = .ok a) :
    (checkedText expected toText ofText).Keeps a where
  opens layout level := by
    have whole := bytesOf_quote (toText a) []
    rw [List.append_nil] at whole
    exact ⟨code '"', _, whole, rfl, by decide, by decide⟩
  reads layout level front left blank _ := by
    have whole := bytesOf_quote (toText a) []
    rw [List.append_nil] at whole
    simp only [checkedText, Value.laid]
    rw [whole, List.cons_append, bind_of_ok (firstByte_blanks blank rfl _)]
    simp only [↓reduceIte]
    rw [bind_of_ok (drop_cons _ _)]
    apply placed_of_ok
    rw [List.append_assoc, List.cons_append, bytesOf_nil, List.nil_append,
      bind_of_ok (text_quote (toText a) left), checked]
    rfl

theorem keeps_text (s : String) : text.Keeps s := keeps_checkedText rfl

/-- A value that is converted and converted back is kept if what it is converted to is. -/
theorem keeps_via {codec : Codec α} {forth : β → α} {back : α → β} {b : β}
    (kept : codec.Keeps (forth b)) (undone : back (forth b) = b) :
    (codec.via forth back).Keeps b where
  opens := kept.opens
  reads layout level front left blank ends := by
    have read := map_of_ok (kept.reads layout level front left blank ends) back
    rw [undone] at read
    exact read

/-! ## Records -/

namespace Fields

/-- The names of the fields. -/
def names : {σ α : Type} → Fields σ α → List String
  | _, _, .nil => []
  | _, _, .required name _ rest => name :: rest.names
  | _, _, .optional name _ rest => name :: rest.names

/-- The slots after all entries of a value are read. -/
def filled : {σ α : Type} → Fields σ α → α → σ
  | _, _, .nil, () => ()
  | _, _, .required _ _ rest, (b, a) => (some b, rest.filled a)
  | _, _, .optional _ _ rest, (b, a) => (b.map some, rest.filled a)

/-- The values of all fields that are present are kept. -/
def Keeps : {σ α : Type} → Fields σ α → α → Prop
  | _, _, .nil, () => True
  | _, _, .required _ codec rest, (b, a) => codec.Keeps b ∧ rest.Keeps a
  | _, _, .optional _ codec rest, (b, a) => (∀ c, b = some c → codec.Keeps c) ∧ rest.Keeps a

/-- Slots that a value has filled are finished as the value. -/
theorem finish_filled {σ α : Type} (fields : Fields σ α) (a : α) (left : List UInt8) :
    fields.finish (fields.filled a) left = (.ok a, left) := by
  induction fields with
  | nil => rfl
  | required name codec rest ih =>
      obtain ⟨b, a⟩ := a
      rw [filled, finish, bind_of_ok (ih a)]
      rfl
  | optional name codec rest ih =>
      obtain ⟨b, a⟩ := a
      rw [filled, finish, bind_of_ok (ih a)]
      cases b <;> rfl

theorem colon_cons (left : List UInt8) : colon (code ':' :: left) = (.ok (), left) := by
  have found := nextPart?_blanks blanks_nil
    (b := code ':') rfl left
  unfold colon
  rw [bytesOf_nil, List.nil_append] at found
  rw [bind_of_ok found]
  rfl

/-- The key of the next entry is found after the comma and the blanks before it. -/
theorem key?_quote (first : Bool) {gap : List Char} (blank : Blanks gap) (key : String)
    (left : List UInt8) :
    key? first (bytesOf (comma first) ++ (bytesOf gap ++ (bytesOf (quote key) ++ left))) =
      (.ok (some key), left) := by
  have whole := bytesOf_quote key []
  rw [List.append_nil] at whole
  have quoted : bytesOf (quote key) ++ left =
      code '"' :: (bytesOf (key.toList.flatMap escape) ++ code '"' :: left) := by
    rw [whole, List.cons_append, List.append_assoc]
    rfl
  have found := nextPart?_blanks blank (b := code '"') rfl
    (bytesOf (key.toList.flatMap escape) ++ code '"' :: left)
  have noEnd : code '"' ≠ code '\x7d' := by decide
  have noComma : code ',' ≠ code '\x7d' := by decide
  rw [quoted]
  unfold key?
  cases first with
  | true =>
      rw [show bytesOf (comma true) = [] from rfl, List.nil_append, bind_of_ok found]
      simp only [noEnd, ↓reduceIte]
      rw [bind_of_ok (drop_cons _ _), bind_of_ok (text_quote key left)]
      rfl
  | false =>
      have comma := nextPart?_blanks blanks_nil
        (b := code ',') rfl
        (bytesOf gap ++ code '"' :: (bytesOf (key.toList.flatMap escape) ++ code '"' :: left))
      rw [bytesOf_nil, List.nil_append] at comma
      rw [show bytesOf (Json.comma false) = [code ','] from rfl, List.singleton_append,
        bind_of_ok comma]
      simp only [noComma, ↓reduceIte, Bool.false_eq_true]
      rw [bind_of_ok (drop_cons _ _), bind_of_ok found]
      simp only [↓reduceIte]
      rw [bind_of_ok (drop_cons _ _), bind_of_ok (text_quote key left)]
      rfl

/-- There is no further key before the closing bracket. -/
theorem key?_end (first : Bool) {gap : List Char} (blank : Blanks gap) (left : List UInt8) :
    key? first (bytesOf gap ++ code '\x7d' :: left) = (.ok none, code '\x7d' :: left) := by
  unfold key?
  rw [bind_of_ok (nextPart?_blanks blank (b := code '\x7d') rfl left)]
  rfl

/-- An entry whose key has a slot fills the slot. -/
theorem readEntries_fill {σ α : Type} (fields : Fields σ α) (fuel : Nat) (first : Bool)
    {slots filled : σ} {key : String} {reader : Reader σ} {gap : List Char}
    {value left : List UInt8} (blank : Blanks gap) (slot : fields.fill? key slots = some reader)
    (read : reader value = (.ok filled, left)) :
    fields.readEntries (fuel + 1) first slots
        (bytesOf (comma first) ++ (bytesOf gap ++ (bytesOf (quote key) ++ value))) =
      fields.readEntries fuel false filled left := by
  rw [readEntries, bind_of_ok (key?_quote first blank key value)]
  simp only [slot]
  rw [bind_of_ok read]

theorem readEntries_end {σ α : Type} (fields : Fields σ α) (fuel : Nat) (first : Bool)
    (slots : σ) {gap : List Char} (blank : Blanks gap) (left : List UInt8) :
    fields.readEntries (fuel + 1) first slots (bytesOf gap ++ code '\x7d' :: left) =
      (.ok slots, code '\x7d' :: left) := by
  rw [readEntries, bind_of_ok (key?_end first blank left)]
  rfl

/-- What is behind the entries of an object may stand after a value. -/
theorem ends_laidEntries (layout : Layout) (level : Nat) (entries : List (String × Value))
    {gap : List Char} (blank : Blanks gap) (left : List UInt8) :
    Ends (bytesOf (laidEntries layout level false entries) ++
      (bytesOf gap ++ code '\x7d' :: left)) := by
  intro b first
  cases entries with
  | nil =>
      rw [laidEntries, bytesOf_nil, List.nil_append] at first
      cases bytes : bytesOf gap with
      | nil =>
          rw [bytes] at first
          obtain rfl := Option.some.inj first
          exact Or.inr (Or.inr (Or.inr rfl))
      | cons c more =>
          rw [bytes] at first
          obtain rfl := Option.some.inj first
          exact Or.inl (blank c (bytes ▸ List.mem_cons_self))
  | cons entry entries =>
      rw [laidEntries, comma, bytesOf_append] at first
      obtain rfl := Option.some.inj first
      exact Or.inr (Or.inl rfl)

/-- The fields at hand are the last ones of a record, whose slots are put in place by
`place`. -/
def Placed {σ α τ β : Type} (whole : Fields σ α) (fields : Fields τ β) (place : τ → σ) : Prop :=
  ∀ key ∈ fields.names, ∀ slots, whole.fill? key (place slots) =
    (fields.fill? key slots).map fun reader => place <$> reader

/-- The fields behind a field that a record must have are the last ones too. -/
theorem Placed.required {σ α τ β γ : Type} {whole : Fields σ α} {name : String} {codec : Codec γ}
    {rest : Fields τ β} {place : Option γ × τ → σ}
    (placed : Placed whole (.required name codec rest) place) (distinct : name ∉ rest.names)
    (slot : Option γ) : Placed whole rest fun slots => place (slot, slots) := by
  intro key member slots
  have other : key ≠ name := fun same => distinct (same ▸ member)
  rw [placed key (List.mem_cons_of_mem _ member), fill?, if_neg other, Option.map_map]
  congr 1
  funext reader
  exact Functor.map_map _ _ _

theorem Placed.optional {σ α τ β γ : Type} {whole : Fields σ α} {name : String} {codec : Codec γ}
    {rest : Fields τ β} {place : Option (Option γ) × τ → σ}
    (placed : Placed whole (.optional name codec rest) place) (distinct : name ∉ rest.names)
    (slot : Option (Option γ)) : Placed whole rest fun slots => place (slot, slots) := by
  intro key member slots
  have other : key ≠ name := fun same => distinct (same ▸ member)
  rw [placed key (List.mem_cons_of_mem _ member), fill?, if_neg other, Option.map_map]
  congr 1
  funext reader
  exact Functor.map_map _ _ _

/-- The entry of a field that a record must have fills the slot of the field. -/
theorem fill?_required {σ α : Type} (name : String) {codec : Codec β} (rest : Fields σ α)
    (slots : σ) {b : β} (kept : codec.Keeps b) (layout : Layout) (level : Nat) :
    ∃ reader, (Fields.required name codec rest).fill? name (none, slots) = some reader ∧
      ∀ left, Ends left → reader (code ':' :: (bytesOf layout.space ++
        (bytesOf ((codec.write b).laid layout level) ++ left))) = (.ok (some b, slots), left) := by
  refine ⟨_, by rw [fill?, if_pos rfl], fun left ends => ?_⟩
  simp only [Option.isSome_none, Bool.false_eq_true, ↓reduceIte]
  rw [bind_of_ok (colon_cons _),
    bind_of_ok (kept.reads layout level layout.space left layout.blanks_space ends)]
  rfl

theorem fill?_optional {σ α : Type} (name : String) {codec : Codec β} (rest : Fields σ α)
    (slots : σ) {b : β} (kept : codec.Keeps b) (layout : Layout) (level : Nat) :
    ∃ reader, (Fields.optional name codec rest).fill? name (none, slots) = some reader ∧
      ∀ left, Ends left → reader (code ':' :: (bytesOf layout.space ++
        (bytesOf ((codec.write b).laid layout level) ++ left))) =
          (.ok (some (some b), slots), left) := by
  refine ⟨_, by rw [fill?, if_pos rfl], fun left ends => ?_⟩
  obtain ⟨first, bytes, written, part, present, -⟩ := kept.opens layout level
  have read := kept.reads layout level [] left blanks_nil ends
  rw [written, bytesOf_nil, List.nil_append, List.cons_append] at read
  simp only [Option.isSome_none, Bool.false_eq_true, ↓reduceIte]
  rw [bind_of_ok (colon_cons _), written, List.cons_append]
  have value : nullable codec.read (bytesOf layout.space ++ first :: (bytes ++ left)) =
      (.ok (some b), left) := by
    unfold nullable
    rw [bind_of_ok (nextPart?_blanks layout.blanks_space part _)]
    simp only [Option.some.injEq, present, ↓reduceIte]
    rw [bind_of_ok read]
    rfl
  rw [bind_of_ok value]
  rfl

/-- An entry in front fills its slot, and the entries behind it go on from there. -/
theorem readEntries_cons {σ α : Type} (whole : Fields σ α) (layout : Layout) (level : Nat)
    (first : Bool) {fuel : Nat} {slots filled : σ} {key : String} {value : Value}
    {entries : List (String × Value)} {reader : Reader σ} {after : List UInt8}
    (slot : whole.fill? key slots = some reader)
    (read : reader (code ':' :: (bytesOf layout.space ++ (bytesOf (value.laid layout level) ++
      (bytesOf (laidEntries layout level false entries) ++ after)))) =
        (.ok filled, bytesOf (laidEntries layout level false entries) ++ after))
    (enough : (bytesOf (laidEntries layout level first ((key, value) :: entries))).length < fuel) :
    ∃ less, (bytesOf (laidEntries layout level false entries)).length < less ∧
      whole.readEntries fuel first slots
          (bytesOf (laidEntries layout level first ((key, value) :: entries)) ++ after) =
        whole.readEntries less false filled
          (bytesOf (laidEntries layout level false entries) ++ after) := by
  obtain ⟨fuel, rfl⟩ := Nat.exists_eq_succ_of_ne_zero (Nat.ne_of_gt (Nat.zero_lt_of_lt enough))
  have bytes (cs : List Char) : bytesOf (':' :: cs) = code ':' :: bytesOf cs :=
    bytesOf_cons_of_lt (by decide) cs
  refine ⟨fuel, ?_, ?_⟩
  · rw [laidEntries] at enough
    simp only [bytesOf_append, bytes, List.length_append, List.length_cons] at enough
    omega
  · rw [laidEntries]
    simp only [bytesOf_append, bytes, List.append_assoc, List.cons_append]
    exact readEntries_fill whole fuel first (layout.blanks_gap level) slot read

/-- **Entries of a record.** The entries of a value fill the slots that the value
fills. -/
theorem readEntries_entries {σ α τ β : Type} (whole : Fields σ α) (fields : Fields τ β)
    (layout : Layout) (level : Nat) {gap : List Char} (blank : Blanks gap) (left : List UInt8) :
    ∀ (a : β) (place : τ → σ) (first : Bool) (fuel : Nat),
      fields.Keeps a → fields.names.Nodup → Placed whole fields place →
      (bytesOf (laidEntries layout level first (fields.entries a))).length < fuel →
      whole.readEntries fuel first (place fields.start)
          (bytesOf (laidEntries layout level first (fields.entries a)) ++
            (bytesOf gap ++ code '\x7d' :: left)) =
        (.ok (place (fields.filled a)), code '\x7d' :: left) := by
  induction fields with
  | nil =>
      intro a place first fuel kept distinct placed enough
      obtain ⟨fuel, rfl⟩ := Nat.exists_eq_succ_of_ne_zero (Nat.ne_of_gt (Nat.zero_lt_of_lt enough))
      exact readEntries_end whole fuel first _ blank left
  | required name codec rest ih =>
      intro a place first fuel kept distinct placed enough
      obtain ⟨b, a⟩ := a
      obtain ⟨apart, distinct⟩ := List.nodup_cons.mp distinct
      obtain ⟨reader, slot, read⟩ := fill?_required name rest rest.start kept.1 layout level
      have here := placed name List.mem_cons_self (none, rest.start)
      rw [slot] at here
      obtain ⟨fuel, enough, step⟩ := readEntries_cons whole layout level first here
        (map_of_ok (read _ (ends_laidEntries layout level (rest.entries a) blank left)) place)
        enough
      exact step.trans
        (ih a (fun slots => place (some b, slots)) false fuel kept.2 distinct
          (placed.required apart _) enough)
  | optional name codec rest ih =>
      intro a place first fuel kept distinct placed enough
      obtain ⟨b, a⟩ := a
      obtain ⟨apart, distinct⟩ := List.nodup_cons.mp distinct
      cases b with
      | none =>
          exact ih a (fun slots => place (none, slots)) first fuel kept.2 distinct
            (placed.optional apart _) enough
      | some b =>
          obtain ⟨reader, slot, read⟩ :=
            fill?_optional name rest rest.start (kept.1 b rfl) layout level
          have here := placed name List.mem_cons_self (none, rest.start)
          rw [slot] at here
          obtain ⟨fuel, enough, step⟩ := readEntries_cons whole layout level first here
            (map_of_ok (read _ (ends_laidEntries layout level (rest.entries a) blank left)) place)
            enough
          exact step.trans
            (ih a (fun slots => place (some (some b), slots)) false fuel kept.2 distinct
              (placed.optional apart _) enough)

end Fields

theorem objectEnd_cons (left : List UInt8) : objectEnd (code '\x7d' :: left) = (.ok (), left) := by
  have found := nextPart?_blanks blanks_nil
    (b := code '\x7d') rfl left
  rw [bytesOf_nil, List.nil_append] at found
  unfold objectEnd
  rw [bind_of_ok found]
  rfl

/-- An object in a layout: its entries between brackets, and blanks before the closing
bracket. -/
theorem laid_object (layout : Layout) (level : Nat) (entries : List (String × Value)) :
    ∃ gap, Blanks gap ∧ bytesOf ((Value.object entries).laid layout level) =
      code '\x7b' :: (bytesOf (laidEntries layout (level + 1) true entries) ++
        (bytesOf gap ++ [code '\x7d'])) := by
  have ending : bytesOf ['\x7d'] = [code '\x7d'] := rfl
  cases entries with
  | nil =>
      refine ⟨[], blanks_nil, ?_⟩
      rw [laidEntries.eq_def, Value.laid]
      rfl
  | cons entry entries =>
      refine ⟨layout.gap level, layout.blanks_gap level, ?_⟩
      rw [Value.laid, bytesOf_cons_of_lt (by decide), bytesOf_append, bytesOf_append, ending]
      simp

/-- **Records.** A record whose fields have different names is kept if its fields are. -/
theorem keeps_record {σ α : Type} {name : String} {fields : Fields σ α} {a : α}
    (distinct : fields.names.Nodup) (kept : fields.Keeps a) : (record name fields).Keeps a where
  opens layout level := by
    obtain ⟨gap, -, written⟩ := laid_object layout level (fields.entries a)
    exact ⟨code '\x7b', _, written, rfl, by decide, by decide⟩
  reads layout level front left blank _ := by
    obtain ⟨gap, ending, written⟩ := laid_object layout level (fields.entries a)
    have noList : code '\x7b' ≠ code '[' := by decide
    simp only [record]
    rw [written, List.cons_append, bind_of_ok (firstByte_blanks blank rfl _)]
    simp only [noList, ↓reduceIte]
    rw [bind_of_ok (drop_cons _ _)]
    refine closed_of_ok ?_ (objectEnd_cons left)
    rw [List.append_assoc, List.append_assoc, List.singleton_append]
    let inside := bytesOf (laidEntries layout (level + 1) true (fields.entries a)) ++
      (bytesOf gap ++ code '\x7d' :: left)
    have start : Reader.left inside = (.ok inside, inside) := rfl
    have placed : Fields.Placed fields fields fun slots => slots := by
      intro key member slots
      simp
    have enough : (bytesOf (laidEntries layout (level + 1) true (fields.entries a))).length <
        inside.length + 1 := by
      simp only [inside, List.length_append]
      omega
    rw [bind_of_ok start, bind_of_ok (Fields.readEntries_entries fields fields layout (level + 1)
      ending left a (fun slots => slots) true _ kept distinct placed enough)]
    exact fields.finish_filled a _

/-! ## Documents -/

/-- A value that is kept is decoded from its document in any layout. -/
theorem decode_laid {codec : Codec α} {a : α} (kept : codec.Keeps a) (layout : Layout)
    (level : Nat) : codec.decode (bytesOf ((codec.write a).laid layout level)) = .ok a := by
  have read := kept.reads layout level [] [] blanks_nil
    (fun _ first => nomatch first)
  rw [bytesOf_nil, List.nil_append, List.append_nil] at read
  have whole : codec.document (bytesOf ((codec.write a).laid layout level)) = (.ok a, []) := by
    unfold document
    rw [bind_of_ok read]
    rfl
  have result : (codec.document.run (bytesOf ((codec.write a).laid layout level))).1 = .ok a :=
    congrArg Prod.fst whole
  unfold decode
  rw [result]

/-- **Decoding.** A value that is kept is decoded from what it is encoded as. -/
theorem decode_encode {codec : Codec α} {a : α} (kept : codec.Keeps a) :
    codec.decode (codec.encode a).toUTF8.toList = .ok a := by
  rw [toList_toUTF8, encode, Value.toText, String.toList_ofList, Value.compact_eq_laid 0]
  exact decode_laid kept _ _

theorem decode_encodeLines {codec : Codec α} {a : α} (kept : codec.Keeps a) :
    codec.decode (codec.encodeLines a).toUTF8.toList = .ok a := by
  rw [toList_toUTF8, encodeLines, Value.toLines, String.toList_ofList, Value.indented_eq_laid]
  exact decode_laid kept _ _

end BpfDepot.Json.Codec
