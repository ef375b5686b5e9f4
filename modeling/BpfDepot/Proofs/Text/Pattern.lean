import Mathlib.Computability.Language
import BpfDepot.Proofs.Path

/-! # Patterns of texts

A pattern is the set of the texts that it fits. Patterns are put together from classes of
characters as in a regular expression: one after the other, one or the other, many times or
not at all. What a test character by character accepts is told of a few patterns: runs of a
class (`Text.mem_many_one_iff`), runs of a bounded length (`Text.mem_times_one_iff`), and
parts with a separator between them (`Text.mem_separated_iff`).
-/

namespace BpfDepot.Text

open scoped Computability

/-- One character of a class. -/
def one (kind : Char → Bool) : Language Char := {text | ∃ c, kind c = true ∧ text = [c]}

/-- One given character. -/
def mark (c : Char) : Language Char := one (· = c)

/-- A pattern once or more often. -/
def many (pattern : Language Char) : Language Char := pattern * pattern∗

/-- A pattern, or nothing. -/
def maybe (pattern : Language Char) : Language Char := 1 + pattern

/-- A pattern a number of times that is allowed. -/
def times (allowed : Nat → Prop) (pattern : Language Char) : Language Char :=
  {text | ∃ count, allowed count ∧ text ∈ pattern ^ count}

variable {kind : Char → Bool} {pattern : Language Char} {text : List Char} {sep : Char}

theorem mem_one_iff : text ∈ one kind ↔ ∃ c, kind c = true ∧ text = [c] := Iff.rfl

theorem singleton_mem_one {c : Char} (fits : kind c = true) : [c] ∈ one kind := ⟨c, fits, rfl⟩

theorem mem_mark_iff {c : Char} : text ∈ mark c ↔ text = [c] := by
  simp [mark, mem_one_iff]

theorem singleton_mem_mark (c : Char) : [c] ∈ mark c := mem_mark_iff.mpr rfl

theorem maybe_many (pattern : Language Char) : maybe (many pattern) = pattern∗ :=
  Language.one_add_self_mul_kstar_eq_kstar pattern

theorem mem_maybe_iff : text ∈ maybe pattern ↔ text = [] ∨ text ∈ pattern := by
  rw [maybe, Language.mem_add, Language.mem_one]

theorem nil_mem_star (pattern : Language Char) : [] ∈ pattern∗ := Language.nil_mem_kstar pattern

/-- A text that begins with a pattern goes on with the pattern any number of times. -/
theorem append_mem_star {front back : List Char} (first : front ∈ pattern) (rest : back ∈ pattern∗) :
    front ++ back ∈ pattern∗ := by
  rw [← Language.one_add_self_mul_kstar_eq_kstar, Language.mem_add]
  exact Or.inr (Language.append_mem_mul first rest)

/-- Induction over the times that a pattern is repeated. -/
@[elab_as_elim]
theorem star_induction {motive : List Char → Prop} (member : text ∈ pattern∗) (nil : motive [])
    (append : ∀ front back, front ∈ pattern → back ∈ pattern∗ → motive back →
      motive (front ++ back)) : motive text := by
  obtain ⟨parts, rfl, fits⟩ := Language.mem_kstar.mp member
  clear member
  induction parts with
  | nil => exact nil
  | cons part parts ih =>
      have rest : ∀ other ∈ parts, other ∈ pattern :=
        fun other inside => fits other (List.mem_cons_of_mem _ inside)
      exact append part parts.flatten (fits part List.mem_cons_self)
        (Language.join_mem_kstar rest) (ih rest)

/-! ## Runs of a class -/

theorem mem_star_one_iff : text ∈ (one kind)∗ ↔ ∀ c ∈ text, kind c = true := by
  constructor
  · intro member
    refine star_induction member (fun _ inside => absurd inside List.not_mem_nil) ?_
    rintro _ back ⟨c, fits, rfl⟩ - rest d inside
    rcases List.mem_cons.mp inside with rfl | further
    · exact fits
    · exact rest d further
  · intro all
    induction text with
    | nil => exact nil_mem_star _
    | cons c text ih =>
        exact append_mem_star (singleton_mem_one (all c List.mem_cons_self))
          (ih fun d member => all d (List.mem_cons_of_mem _ member))

theorem mem_many_one_iff : text ∈ many (one kind) ↔ text ≠ [] ∧ ∀ c ∈ text, kind c = true := by
  rw [many, Language.mem_mul]
  constructor
  · rintro ⟨_, ⟨c, fits, rfl⟩, rest, further, rfl⟩
    refine ⟨List.cons_ne_nil _ _, fun d member => ?_⟩
    rcases List.mem_cons.mp member with rfl | later
    · exact fits
    · exact mem_star_one_iff.mp further d later
  · rintro ⟨present, all⟩
    obtain ⟨c, rest, rfl⟩ := List.exists_cons_of_ne_nil present
    exact ⟨[c], ⟨c, all c List.mem_cons_self, rfl⟩, rest,
      mem_star_one_iff.mpr fun d member => all d (List.mem_cons_of_mem _ member), rfl⟩

theorem mem_pow_one_iff {count : Nat} :
    text ∈ one kind ^ count ↔ text.length = count ∧ ∀ c ∈ text, kind c = true := by
  induction count generalizing text with
  | zero =>
      rw [pow_zero, Language.mem_one, List.length_eq_zero_iff]
      constructor
      · rintro rfl
        exact ⟨rfl, by simp⟩
      · exact And.left
  | succ count ih =>
      rw [pow_succ', Language.mem_mul]
      constructor
      · rintro ⟨_, ⟨c, fits, rfl⟩, rest, further, rfl⟩
        obtain ⟨length, all⟩ := ih.mp further
        refine ⟨congrArg Nat.succ length, fun d member => ?_⟩
        rcases List.mem_cons.mp member with rfl | later
        · exact fits
        · exact all d later
      · rintro ⟨length, all⟩
        obtain ⟨c, rest, rfl⟩ := List.exists_cons_of_length_eq_add_one length
        exact ⟨[c], ⟨c, all c List.mem_cons_self, rfl⟩, rest,
          ih.mpr ⟨Nat.succ.inj length, fun d member => all d (List.mem_cons_of_mem _ member)⟩, rfl⟩

/-- **Runs of bounded length.** -/
theorem mem_times_one_iff {allowed : Nat → Prop} : text ∈ times allowed (one kind) ↔
    allowed text.length ∧ ∀ c ∈ text, kind c = true := by
  constructor
  · rintro ⟨count, fits, member⟩
    obtain ⟨rfl, all⟩ := mem_pow_one_iff.mp member
    exact ⟨fits, all⟩
  · rintro ⟨fits, all⟩
    exact ⟨text.length, fits, mem_pow_one_iff.mpr ⟨rfl, all⟩⟩

/-! ## Alphabets -/

/-- The texts of a pattern are made of characters that are allowed. -/
def Over (allowed : Char → Prop) (pattern : Language Char) : Prop :=
  ∀ text ∈ pattern, ∀ c ∈ text, allowed c

namespace Over

variable {allowed : Char → Prop} {other : Language Char}

theorem one (fits : ∀ c, kind c = true → allowed c) : Over allowed (Text.one kind) := by
  rintro _ ⟨c, inside, rfl⟩ d member
  rw [List.mem_singleton.mp member]
  exact fits c inside

theorem mark {c : Char} (fits : allowed c) : Over allowed (Text.mark c) :=
  one fun _ same => of_decide_eq_true same ▸ fits

theorem mul (first : Over allowed pattern) (second : Over allowed other) :
    Over allowed (pattern * other) := by
  rintro _ ⟨front, begins, back, ends, rfl⟩ c member
  exact (List.mem_append.mp member).elim (first front begins c) (second back ends c)

theorem add (first : Over allowed pattern) (second : Over allowed other) :
    Over allowed (pattern + other) :=
  fun text either => either.elim (first text) (second text)

theorem star (each : Over allowed pattern) : Over allowed pattern∗ := by
  intro text member
  refine star_induction member (fun _ inside => absurd inside List.not_mem_nil) ?_
  intro front back begins _ rest c inside
  exact (List.mem_append.mp inside).elim (each front begins c) (rest c)

theorem many (each : Over allowed pattern) : Over allowed (Text.many pattern) := each.mul each.star

theorem maybe (each : Over allowed pattern) : Over allowed (Text.maybe pattern) := by
  intro text member c inside
  rcases mem_maybe_iff.mp member with rfl | member
  · exact absurd inside List.not_mem_nil
  · exact each text member c inside

theorem mono {more : Char → Prop} (within : Over allowed pattern)
    (weaker : ∀ c, allowed c → more c) : Over more pattern :=
  fun text member c inside => weaker c (within text member c inside)

/-- A character that is not allowed is in no text. -/
theorem not_mem (within : Over allowed pattern) (member : text ∈ pattern) {c : Char}
    (barred : ¬ allowed c) : c ∉ text :=
  fun inside => barred (within text member c inside)

end Over

/-! ## Parts with a separator between them -/

/-- **Separated parts.** A text fits parts with a separator between them exactly if each of
its pieces fits a part, where no part has the separator in it. -/
theorem mem_separated_iff (apart : ∀ part ∈ pattern, sep ∉ part) :
    text ∈ pattern * (mark sep * pattern)∗ ↔ ∀ piece ∈ pieces sep text, piece ∈ pattern := by
  constructor
  · rw [Language.mem_mul]
    rintro ⟨first, fits, rest, further, rfl⟩
    revert first
    refine star_induction further ?_ ?_
    · intro first fits piece member
      rw [List.append_nil, pieces_of_not_mem (apart first fits)] at member
      exact List.mem_singleton.mp member ▸ fits
    · rintro _ back ⟨_, comma, part, inside, rfl⟩ - ih first fits piece member
      obtain rfl := mem_mark_iff.mp comma
      rw [List.append_assoc, List.singleton_append, pieces_append,
        pieces_of_not_mem (apart first fits)] at member
      rcases List.mem_append.mp member with here | there
      · exact List.mem_singleton.mp here ▸ fits
      · exact ih part inside piece there
  · intro fits
    induction length : text.length using Nat.strongRecOn generalizing text with
    | ind count ih =>
        subst length
        cases cut : cutFirst? sep text with
        | none =>
            have absent := cutFirst?_eq_none_iff.mp cut
            rw [pieces_of_not_mem absent] at fits
            rw [← List.append_nil text]
            exact Language.append_mem_mul (fits text List.mem_cons_self) (nil_mem_star _)
        | some parts =>
            obtain ⟨first, rest⟩ := parts
            obtain ⟨rfl, absent⟩ := cutFirst?_eq_some_iff.mp cut
            rw [pieces_append, pieces_of_not_mem absent] at fits
            have further := ih rest.length (by simp; omega)
              (fun piece member => fits piece (List.mem_append_right _ member)) rfl
            obtain ⟨part, inside, back, tail, rfl⟩ := Language.mem_mul.mp further
            refine Language.append_mem_mul (fits first (List.mem_append_left _ List.mem_cons_self)) ?_
            exact append_mem_star (Language.append_mem_mul (singleton_mem_mark sep) inside) tail

end BpfDepot.Text
