import BpfDepot.Json.Codec
import BpfDepot.Proofs.Json.Text

/-! # A document tells its value

The form without blanks is unambiguous: two values that are written alike are the
same, also when something stands behind them (`Json.Value.compact_append`). The first
character tells what kind of value follows, a number ends before the first character
that is no digit, and every other value ends with a mark of its own. So the bytes of a
document tell the JSON value that was written (`Json.Codec.write_eq_of_encode`).
-/

namespace BpfDepot.Json

/-! ## Texts and numbers -/

theorem bytesOf_injective {cs ds : List Char} (same : bytesOf cs = bytesOf ds) : cs = ds := by
  have bytes : (String.ofList cs).toByteArray = (String.ofList ds).toByteArray := by
    rw [toByteArray_eq, toByteArray_eq, String.toList_ofList, String.toList_ofList, same]
  exact String.ofList_injective (String.toByteArray_inj.mp bytes)

/-- A quoted text ends at its closing mark. -/
theorem quote_append {s t : String} {after other : List Char}
    (same : quote s ++ after = quote t ++ other) : s = t ∧ after = other := by
  have bytes := congrArg bytesOf same
  rw [bytesOf_quote, bytesOf_quote] at bytes
  have inside := congrArg Reader.text (List.cons.inj bytes).2
  rw [Reader.text_quote, Reader.text_quote] at inside
  obtain ⟨texts, afters⟩ := Prod.mk.inj inside
  exact ⟨Except.ok.inj texts, bytesOf_injective afters⟩

/-- What stands behind a number does not go on with it. -/
def NoDigit (after : List Char) : Prop := ∀ c, after.head? = some c → c.isDigit = false

theorem noDigit_cons {c : Char} (other : c.isDigit = false) (after : List Char) :
    NoDigit (c :: after) := by
  intro d first
  obtain rfl := Option.some.inj first
  exact other

/-- Digits end where no digit follows. -/
theorem digits_append {front back after other : List Char} (front_digits : ∀ c ∈ front, c.isDigit)
    (back_digits : ∀ c ∈ back, c.isDigit) (stops : NoDigit after) (ends : NoDigit other)
    (same : front ++ after = back ++ other) : front = back ∧ after = other := by
  have run (ds left : List Char) (all : ∀ c ∈ ds, c.isDigit) (stop : NoDigit left) :
      (ds ++ left).takeWhile Char.isDigit = ds := by
    rw [List.takeWhile_append_of_pos all]
    cases left with
    | nil => simp
    | cons c left => rw [List.takeWhile_cons_of_neg (by simp [stop c rfl]), List.append_nil]
  have fronts : front = back := by
    rw [← run front after front_digits stops, same, run back other back_digits ends]
  subst fronts
  exact ⟨rfl, List.append_cancel_left same⟩

theorem toDigits_isDigit (n : Nat) : ∀ c ∈ Nat.toDigits 10 n, c.isDigit := by
  intro c member
  exact Nat.isDigit_of_mem_toDigits (by decide) (by decide) member

/-- The digits of a natural number tell the number. -/
theorem toDigits_append {m n : Nat} {after other : List Char} (stops : NoDigit after)
    (ends : NoDigit other) (same : Nat.toDigits 10 m ++ after = Nat.toDigits 10 n ++ other) :
    m = n ∧ after = other := by
  obtain ⟨digits, afters⟩ :=
    digits_append (toDigits_isDigit m) (toDigits_isDigit n) stops ends same
  refine ⟨?_, afters⟩
  rw [← Nat.ofDigitChars_ten_toDigits (n := m), digits, Nat.ofDigitChars_ten_toDigits]

/-- The digits of a number begin with a digit, or with a sign before a digit. -/
theorem digits_eq (n : Int) :
    (∃ m : Nat, n = m ∧ digits n = Nat.toDigits 10 m) ∨
      ∃ m : Nat, n = Int.negSucc m ∧ digits n = '-' :: Nat.toDigits 10 (m + 1) := by
  cases n with
  | ofNat m =>
      left
      exact ⟨m, rfl, Nat.toList_repr⟩
  | negSucc m =>
      right
      refine ⟨m, rfl, ?_⟩
      have written : digits (Int.negSucc m) = ("-" ++ Nat.repr (m + 1)).toList := rfl
      rw [written, String.toList_append, Nat.toList_repr]
      rfl

theorem head_toDigits (m : Nat) : ∃ c more, Nat.toDigits 10 m = c :: more ∧ c.isDigit = true := by
  cases digits : Nat.toDigits 10 m with
  | nil =>
      have back := Nat.toList_repr (n := m)
      rw [digits] at back
      exact absurd (String.toList_eq_nil_iff.mp back) Nat.repr_ne_empty
  | cons c more => exact ⟨c, more, rfl, toDigits_isDigit m c (digits ▸ List.mem_cons_self)⟩

/-- A number ends where no digit follows. -/
theorem number_append {m n : Int} {after other : List Char} (stops : NoDigit after)
    (ends : NoDigit other) (same : digits m ++ after = digits n ++ other) :
    m = n ∧ after = other := by
  have minus (k : Nat) (left : List Char) (l : Nat) (right : List Char) :
      Nat.toDigits 10 k ++ left ≠ '-' :: (Nat.toDigits 10 l ++ right) := by
    intro equal
    obtain ⟨c, more, written, digit⟩ := head_toDigits k
    rw [written] at equal
    obtain rfl := (List.cons.inj equal).1
    exact absurd digit (by decide)
  rcases digits_eq m with ⟨k, rfl, left⟩ | ⟨k, rfl, left⟩ <;>
    rcases digits_eq n with ⟨l, rfl, right⟩ | ⟨l, rfl, right⟩ <;> rw [left, right] at same
  · obtain ⟨rfl, afters⟩ := toDigits_append stops ends same
    exact ⟨rfl, afters⟩
  · exact absurd same (minus _ _ _ _)
  · exact absurd same.symm (minus _ _ _ _)
  · obtain ⟨equal, afters⟩ := toDigits_append stops ends (List.cons.inj same).2
    obtain rfl := Nat.succ.inj equal
    exact ⟨rfl, afters⟩

/-! ## Values -/

/-- What the first character of a value tells about it. -/
inductive Shape where
  | null
  | yes
  | no
  | number
  | text
  | list
  | object
  deriving DecidableEq

/-- The shape of a value. -/
def Value.shape : Value → Shape
  | .null => .null
  | .bool true => .yes
  | .bool false => .no
  | .number _ => .number
  | .text _ => .text
  | .list _ => .list
  | .object _ => .object

/-- The shape of a value that begins with a character. -/
def shapeOf? (c : Char) : Option Shape :=
  if c = 'n' then some .null
  else if c = 't' then some .yes
  else if c = 'f' then some .no
  else if c = '"' then some .text
  else if c = '[' then some .list
  else if c = '\x7b' then some .object
  else if c = '-' || c.isDigit then some .number
  else none

theorem shapeOf?_digit {c : Char} (digit : c.isDigit = true) : shapeOf? c = some .number := by
  have other (d : Char) (none : d.isDigit = false) : c ≠ d := by
    rintro rfl
    rw [digit] at none
    cases none
  simp [shapeOf?, other _ (show 'n'.isDigit = false by decide),
    other _ (show 't'.isDigit = false by decide), other _ (show 'f'.isDigit = false by decide),
    other _ (show '"'.isDigit = false by decide), other _ (show '['.isDigit = false by decide),
    other _ (show '\x7b'.isDigit = false by decide), digit]

/-- A value begins with a character of its shape. -/
theorem Value.compact_eq_cons (v : Value) :
    ∃ c more, v.compact = c :: more ∧ shapeOf? c = some v.shape := by
  cases v with
  | null => exact ⟨'n', _, by rw [compact]; rfl, by decide⟩
  | bool b =>
      cases b with
      | true => exact ⟨'t', _, by rw [compact]; rfl, by decide⟩
      | false => exact ⟨'f', _, by rw [compact]; rfl, by decide⟩
  | number n =>
      rcases digits_eq n with ⟨m, -, written⟩ | ⟨m, -, written⟩
      · obtain ⟨c, more, first, digit⟩ := head_toDigits m
        exact ⟨c, more, by rw [compact, written, first], shapeOf?_digit digit⟩
      · exact ⟨'-', _, by rw [compact, written], rfl⟩
  | text s => exact ⟨'"', _, by rw [compact]; rfl, rfl⟩
  | list items => exact ⟨'[', _, by rw [compact]; rfl, rfl⟩
  | object entries => exact ⟨'\x7b', _, by rw [compact]; rfl, rfl⟩

/-- The values of each shape. -/
theorem Value.shape_cases (v : Value) :
    match v.shape with
    | .null => v = .null
    | .yes => v = .bool true
    | .no => v = .bool false
    | .number => ∃ n, v = .number n
    | .text => ∃ s, v = .text s
    | .list => ∃ items, v = .list items
    | .object => ∃ entries, v = .object entries := by
  cases v with
  | null => rfl
  | bool b => cases b <;> rfl
  | number n => exact ⟨n, rfl⟩
  | text s => exact ⟨s, rfl⟩
  | list items => exact ⟨items, rfl⟩
  | object entries => exact ⟨entries, rfl⟩

theorem Value.shape_eq {v w : Value} {after other : List Char}
    (same : v.compact ++ after = w.compact ++ other) : v.shape = w.shape := by
  obtain ⟨c, more, written, shape⟩ := v.compact_eq_cons
  obtain ⟨d, rest, spelt, form⟩ := w.compact_eq_cons
  rw [written, spelt] at same
  obtain rfl := (List.cons.inj same).1
  exact Option.some.inj (shape.symm.trans form)

/-- No value begins with a bracket that closes. -/
theorem Value.compact_ne_bracket (v : Value) {mark : Char} (closing : shapeOf? mark = none)
    (after other : List Char) : v.compact ++ after ≠ mark :: other := by
  obtain ⟨c, more, written, shape⟩ := v.compact_eq_cons
  intro same
  rw [written] at same
  obtain rfl := (List.cons.inj same).1
  rw [closing] at shape
  cases shape

/-- The items behind the first one, with the commas before them. -/
def moreItems : List Value → List Char
  | [] => []
  | item :: rest => ',' :: compactItems (item :: rest)

theorem compactItems_cons (item : Value) (rest : List Value) :
    compactItems (item :: rest) = item.compact ++ moreItems rest := by
  cases rest <;> simp [compactItems, moreItems]

/-- The entries behind the first one, with the commas before them. -/
def moreEntries : List (String × Value) → List Char
  | [] => []
  | entry :: rest => ',' :: compactEntries (entry :: rest)

theorem compactEntries_cons (key : String) (value : Value) (rest : List (String × Value)) :
    compactEntries ((key, value) :: rest) =
      quote key ++ ':' :: (value.compact ++ moreEntries rest) := by
  cases rest <;> simp [compactEntries, moreEntries]

theorem noDigit_moreItems (items : List Value) (after : List Char) :
    NoDigit (moreItems items ++ ']' :: after) := by
  cases items <;> exact noDigit_cons (by decide) _

theorem noDigit_moreEntries (entries : List (String × Value)) (after : List Char) :
    NoDigit (moreEntries entries ++ '\x7d' :: after) := by
  cases entries <;> exact noDigit_cons (by decide) _

mutual

/-- **Unambiguous documents.** Values that are written alike are the same, and so is
what stands behind them, if no digit stands there. -/
theorem Value.compact_append : ∀ (v w : Value) (after other : List Char), NoDigit after →
    NoDigit other → v.compact ++ after = w.compact ++ other → v = w ∧ after = other
  | .null, w, after, other, _, _, same => by
      have form := w.shape_cases
      rw [← Value.shape_eq same] at form
      subst form
      exact ⟨rfl, List.append_cancel_left same⟩
  | .bool b, w, after, other, _, _, same => by
      have form := w.shape_cases
      rw [← Value.shape_eq same] at form
      cases b <;> subst form <;> exact ⟨rfl, List.append_cancel_left same⟩
  | .number n, w, after, other, stops, ends, same => by
      have form := w.shape_cases
      rw [← Value.shape_eq same] at form
      obtain ⟨m, rfl⟩ := form
      simp only [Value.compact] at same
      obtain ⟨rfl, afters⟩ := number_append stops ends same
      exact ⟨rfl, afters⟩
  | .text s, w, after, other, _, _, same => by
      have form := w.shape_cases
      rw [← Value.shape_eq same] at form
      obtain ⟨t, rfl⟩ := form
      simp only [Value.compact] at same
      obtain ⟨rfl, afters⟩ := quote_append same
      exact ⟨rfl, afters⟩
  | .list items, w, after, other, _, _, same => by
      have form := w.shape_cases
      rw [← Value.shape_eq same] at form
      obtain ⟨others, rfl⟩ := form
      simp only [Value.compact, List.cons_append, List.append_assoc, List.nil_append,
        List.cons.injEq, true_and] at same
      obtain ⟨rfl, afters⟩ := compactItems_append items others after other same
      exact ⟨rfl, afters⟩
  | .object entries, w, after, other, _, _, same => by
      have form := w.shape_cases
      rw [← Value.shape_eq same] at form
      obtain ⟨others, rfl⟩ := form
      simp only [Value.compact, List.cons_append, List.append_assoc, List.nil_append,
        List.cons.injEq, true_and] at same
      obtain ⟨rfl, afters⟩ := compactEntries_append entries others after other same
      exact ⟨rfl, afters⟩

theorem compactItems_append : ∀ (items others : List Value) (after other : List Char),
    compactItems items ++ ']' :: after = compactItems others ++ ']' :: other →
      items = others ∧ after = other
  | [], [], after, other, same => ⟨rfl, (List.cons.inj same).2⟩
  | [], item :: rest, after, other, same => by
      rw [compactItems_cons, List.append_assoc] at same
      exact absurd same.symm (item.compact_ne_bracket (by decide) _ _)
  | item :: rest, [], after, other, same => by
      rw [compactItems_cons, List.append_assoc] at same
      exact absurd same (item.compact_ne_bracket (by decide) _ _)
  | item :: rest, head :: tail, after, other, same => by
      rw [compactItems_cons, compactItems_cons, List.append_assoc, List.append_assoc] at same
      obtain ⟨rfl, behind⟩ := Value.compact_append item head _ _ (noDigit_moreItems _ _)
        (noDigit_moreItems _ _) same
      match rest, tail with
      | [], [] => exact ⟨rfl, (List.cons.inj behind).2⟩
      | [], _ :: _ => exact absurd (List.cons.inj behind).1 (by decide)
      | _ :: _, [] => exact absurd (List.cons.inj behind).1 (by decide)
      | next :: rest, more :: tail =>
          obtain ⟨equal, afters⟩ := compactItems_append (next :: rest) (more :: tail) after other
            (List.cons.inj behind).2
          rw [equal]
          exact ⟨rfl, afters⟩

theorem compactEntries_append : ∀ (entries others : List (String × Value))
    (after other : List Char),
    compactEntries entries ++ '\x7d' :: after = compactEntries others ++ '\x7d' :: other →
      entries = others ∧ after = other
  | [], [], after, other, same => ⟨rfl, (List.cons.inj same).2⟩
  | [], (key, value) :: rest, after, other, same => by
      rw [compactEntries_cons, quote] at same
      exact absurd (List.cons.inj same).1 (by decide)
  | (key, value) :: rest, [], after, other, same => by
      rw [compactEntries_cons, quote] at same
      exact absurd (List.cons.inj same).1 (by decide)
  | (key, value) :: rest, (name, worth) :: tail, after, other, same => by
      rw [compactEntries_cons, compactEntries_cons, List.append_assoc, List.append_assoc] at same
      obtain ⟨rfl, values⟩ := quote_append same
      rw [List.cons_append, List.cons_append, List.append_assoc, List.append_assoc] at values
      have inside := (List.cons.inj values).2
      obtain ⟨rfl, behind⟩ := Value.compact_append value worth _ _ (noDigit_moreEntries _ _)
        (noDigit_moreEntries _ _) inside
      match rest, tail with
      | [], [] => exact ⟨rfl, (List.cons.inj behind).2⟩
      | [], _ :: _ => exact absurd (List.cons.inj behind).1 (by decide)
      | _ :: _, [] => exact absurd (List.cons.inj behind).1 (by decide)
      | next :: rest, more :: tail =>
          obtain ⟨equal, afters⟩ := compactEntries_append (next :: rest) (more :: tail) after other
            (List.cons.inj behind).2
          rw [equal]
          exact ⟨rfl, afters⟩

end

theorem Value.toText_injective {v w : Value} (same : v.toText = w.toText) : v = w := by
  have alone : NoDigit [] := fun _ first => nomatch first
  have texts : v.compact = w.compact := String.ofList_injective same
  exact (v.compact_append w [] [] alone alone (by rw [texts])).1

/-- **Encoding.** A codec that writes different values gives different documents, and
different bytes. -/
theorem Codec.write_eq_of_encode {α : Type} {codec : Codec α} {a b : α}
    (same : (codec.encode a).toUTF8 = (codec.encode b).toUTF8) :
    codec.write a = codec.write b := by
  rw [String.toUTF8_eq_toByteArray, String.toUTF8_eq_toByteArray] at same
  exact Value.toText_injective (String.toByteArray_inj.mp same)

end BpfDepot.Json
