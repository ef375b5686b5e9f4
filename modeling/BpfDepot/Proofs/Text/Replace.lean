import Mathlib.Data.List.Infix
import Mathlib.Data.List.Nodup
import Mathlib.Tactic.Linarith
import BpfDepot.Text.Replace

/-! # What replacing changes

Patterns that do not overlap one another can be replaced one after the other or all in one
pass. In the pass (`Text.fill`) what is put in for a pattern is not looked at again; one
after the other, a later pattern is also found in what was put in for an earlier one. What
the pass adds for one more pattern is a replacement of some of its occurrences
(`Text.replacedIn_fill`), and such a replacement is the one of all occurrences exactly if
there are no more of them (`Text.ReplacedIn.eq_replace_iff`).
-/

namespace BpfDepot.Text

/-- At how many places of a text a pattern begins. -/
def occurrences (pattern text : List Char) : Nat := text.tails.countP pattern.isPrefixOf

/-- One pass over a text, after a number of characters that are dropped: where one of the
patterns of the table begins, its text is put in. -/
def fillAfter (table : List (List Char × List Char)) : Nat → List Char → List Char
  | _, [] => []
  | dropped + 1, _ :: rest => fillAfter table dropped rest
  | 0, c :: rest =>
    match table.find? fun entry => entry.1.isPrefixOf (c :: rest) with
    | some (pattern, new) => new ++ fillAfter table (pattern.length - 1) rest
    | none => c :: fillAfter table 0 rest

/-- One pass over a text that puts in the texts of a table for its patterns. -/
def fill (table : List (List Char × List Char)) (text : List Char) : List Char :=
  fillAfter table 0 text

/-- Of two patterns, the second does not begin within an occurrence of the first, unless
it is the same and the same occurrence. -/
def Separate (first second : List Char) : Prop :=
  ∀ k < first.length, first.drop k <+: second ∨ second <+: first.drop k → k = 0 ∧ first = second

instance (first second : List Char) : Decidable (Separate first second) :=
  inferInstanceAs (Decidable (∀ k < first.length, _ → _))

/-- No occurrence of a pattern can begin or end within a text, nor be around it. -/
def Plain (pattern text : List Char) : Prop :=
  (∀ c ∈ text, pattern.head? ≠ some c ∧ pattern.getLast? ≠ some c) ∧ ¬ text <:+: pattern

-- the characters of the text are gone through, not all characters
instance (pattern text : List Char) : Decidable (Plain pattern text) :=
  @instDecidableAnd _ _ (List.decidableBAll _ text) inferInstance

/-- Some occurrences of a pattern in a text are replaced, this many, and they do not
overlap. -/
inductive ReplacedIn (pattern new : List Char) : List Char → List Char → Nat → Prop
  | nil : ReplacedIn pattern new [] [] 0
  | hit {text result : List Char} {count : Nat} : ReplacedIn pattern new text result count →
      ReplacedIn pattern new (pattern ++ text) (new ++ result) (count + 1)
  | keep {c : Char} {text result : List Char} {count : Nat} :
      ReplacedIn pattern new text result count →
      ReplacedIn pattern new (c :: text) (c :: result) count

variable {pattern first second new text result rest front : List Char} {c : Char} {count : Nat}
  {table : List (List Char × List Char)}

/-! ## Occurrences -/

theorem occurrences_nil (written : pattern ≠ []) : occurrences pattern [] = 0 := by
  cases pattern with
  | nil => exact absurd rfl written
  | cons c pattern => rfl

theorem occurrences_cons_of_isPrefix (begun : pattern <+: c :: rest) :
    occurrences pattern (c :: rest) = occurrences pattern rest + 1 := by
  rw [occurrences, List.tails_cons, List.countP_cons_of_pos (List.isPrefixOf_iff_prefix.mpr begun)]
  rfl

theorem occurrences_cons_of_not_isPrefix (absent : ¬ pattern <+: c :: rest) :
    occurrences pattern (c :: rest) = occurrences pattern rest := by
  rw [occurrences, List.tails_cons,
    List.countP_cons_of_neg (fun begun => absent (List.isPrefixOf_iff_prefix.mp begun))]
  rfl

theorem occurrences_le_cons : occurrences pattern rest ≤ occurrences pattern (c :: rest) := by
  by_cases begun : pattern <+: c :: rest
  · rw [occurrences_cons_of_isPrefix begun]
    exact Nat.le_succ _
  · rw [occurrences_cons_of_not_isPrefix begun]

/-- No pattern begins where its occurrences are as many as behind. -/
theorem not_isPrefix_of_occurrences_eq
    (same : occurrences pattern (c :: rest) = occurrences pattern rest) :
    ¬ pattern <+: c :: rest := by
  intro begun
  rw [occurrences_cons_of_isPrefix begun] at same
  exact Nat.succ_ne_self _ same

/-- Text within which a pattern does not begin adds no occurrence. -/
theorem occurrences_append (absent : ∀ k < front.length, ¬ pattern <+: front.drop k ++ rest) :
    occurrences pattern (front ++ rest) = occurrences pattern rest := by
  induction front with
  | nil => rfl
  | cons c front step =>
    rw [List.cons_append, occurrences_cons_of_not_isPrefix (by simpa using absent 0)]
    exact step fun k bound => absent (k + 1) (Nat.succ_lt_succ bound)

/-! ## Patterns that do not overlap -/

/-- A pattern that is separate from another one begins in no occurrence of it. -/
theorem Separate.not_isPrefix (apart : Separate first second) (other : first ≠ second) {k : Nat}
    (bound : k < first.length) : ¬ second <+: first.drop k ++ rest := fun begun =>
  other (apart k bound (List.prefix_or_prefix_of_prefix (List.prefix_append _ _) begun)).2

/-- A pattern that is separate from itself begins nowhere else in an occurrence of it. -/
theorem Separate.not_isPrefix_later (alone : Separate pattern pattern) {k : Nat} (later : 0 < k)
    (bound : k < pattern.length) : ¬ pattern <+: pattern.drop k ++ rest := fun begun =>
  later.ne' (alone k bound (List.prefix_or_prefix_of_prefix (List.prefix_append _ _) begun)).1

/-- An occurrence of a pattern that is separate from itself counts once. -/
theorem Separate.occurrences_append (alone : Separate pattern pattern) (written : pattern ≠ []) :
    occurrences pattern (pattern ++ rest) = occurrences pattern rest + 1 := by
  obtain ⟨c, behind, rfl⟩ := List.exists_cons_of_ne_nil written
  have absent : ∀ k < behind.length, ¬ c :: behind <+: behind.drop k ++ rest := fun k bound =>
    alone.not_isPrefix_later (k := k + 1) (Nat.succ_pos k) (Nat.succ_lt_succ bound)
  rw [List.cons_append, occurrences_cons_of_isPrefix (List.prefix_append _ rest),
    Text.occurrences_append absent]

/-- Induction along one pass over a text: a pattern of the list is passed over whole, and
where none begins one character is. -/
@[elab_as_elim]
theorem pass_induction (patterns : List (List Char)) (written : [] ∉ patterns)
    {motive : List Char → Prop} (nil : motive [])
    (found : ∀ pattern ∈ patterns, ∀ rest, motive rest → motive (pattern ++ rest))
    (copied : ∀ c rest, (∀ pattern ∈ patterns, ¬ pattern <+: c :: rest) → motive rest →
      motive (c :: rest)) (text : List Char) : motive text := by
  induction size : text.length using Nat.strong_induction_on generalizing text with
  | _ size step =>
    subst size
    cases text with
    | nil => exact nil
    | cons c rest =>
      by_cases begun : ∃ pattern ∈ patterns, pattern <+: c :: rest
      · obtain ⟨pattern, member, rest', same⟩ := begun
        have less : rest'.length < (c :: rest).length := by
          have long : 0 < pattern.length :=
            List.length_pos_of_ne_nil fun empty => written (empty ▸ member)
          rw [← same, List.length_append]
          omega
        exact same ▸ found pattern member rest' (step _ less rest' rfl)
      · push Not at begun
        exact copied c rest begun (step _ (Nat.lt_succ_self _) rest rfl)

/-! ## Replacing one pattern -/

theorem replaceAfter_eq_drop (pattern new : List Char) (dropped : Nat) (text : List Char) :
    replaceAfter pattern new dropped text = replaceAfter pattern new 0 (text.drop dropped) := by
  induction text generalizing dropped with
  | nil => cases dropped <;> rfl
  | cons c rest step =>
    cases dropped with
    | zero => rfl
    | succ dropped => exact step dropped

theorem replaceAfter_append (written : pattern ≠ []) :
    replaceAfter pattern new 0 (pattern ++ rest) = new ++ replaceAfter pattern new 0 rest := by
  obtain ⟨c, pattern, rfl⟩ := List.exists_cons_of_ne_nil written
  have begun : (c :: pattern).isPrefixOf (c :: (pattern ++ rest)) = true :=
    List.isPrefixOf_iff_prefix.mpr (List.prefix_append _ rest)
  rw [List.cons_append, replaceAfter, if_pos begun, replaceAfter_eq_drop]
  simp

theorem replaceAfter_cons (absent : ¬ pattern <+: c :: rest) :
    replaceAfter pattern new 0 (c :: rest) = c :: replaceAfter pattern new 0 rest := by
  rw [replaceAfter, if_neg (fun begun => absent (List.isPrefixOf_iff_prefix.mp begun))]

namespace ReplacedIn

/-- More text can stand before. -/
theorem append (some : ReplacedIn pattern new text result count) (front : List Char) :
    ReplacedIn pattern new (front ++ text) (front ++ result) count := by
  induction front with
  | nil => exact some
  | cons c front step => exact step.keep

theorem length_eq (some : ReplacedIn pattern new text result count) :
    result.length + count * pattern.length = text.length + count * new.length := by
  induction some with
  | nil => simp
  | hit _ step => simp only [List.length_append, Nat.succ_mul]; omega
  | keep _ step => simp only [List.length_cons]; omega

/-- Text within which the pattern does not begin stays. -/
theorem of_append (some : ReplacedIn pattern new (front ++ rest) result count)
    (absent : ∀ k < front.length, ¬ pattern <+: front.drop k ++ rest) :
    ∃ result', result = front ++ result' ∧ ReplacedIn pattern new rest result' count := by
  induction front generalizing result with
  | nil => exact ⟨result, rfl, some⟩
  | cons c front step =>
    generalize same : c :: front ++ rest = text at some
    cases some with
    | nil => nomatch same
    | hit => exact absurd (same ▸ List.prefix_append _ _) (absent 0 (Nat.succ_pos _))
    | keep some =>
      obtain ⟨rfl, rfl⟩ := List.cons.inj same
      obtain ⟨result', rfl, rest⟩ :=
        step some fun k bound => absent (k + 1) (Nat.succ_lt_succ bound)
      exact ⟨result', rfl, rest⟩

/-- No more occurrences are replaced than there are. -/
theorem count_le (some : ReplacedIn pattern new text result count)
    (alone : Separate pattern pattern) (written : pattern ≠ []) :
    count ≤ occurrences pattern text := by
  induction some with
  | nil => exact Nat.zero_le _
  | hit _ step => exact (alone.occurrences_append written).symm ▸ Nat.succ_le_succ step
  | keep _ step => exact step.trans occurrences_le_cons

/-- When all occurrences are replaced, nothing is left to choose. -/
theorem eq_of_count (some : ReplacedIn pattern new text result count)
    (alone : Separate pattern pattern) (written : pattern ≠ [])
    (all : count = occurrences pattern text) : result = replaceAfter pattern new 0 text := by
  induction some with
  | nil => rfl
  | hit _ step =>
    rw [alone.occurrences_append written, Nat.succ_inj] at all
    rw [replaceAfter_append written, step all]
  | @keep c text _ _ some step =>
    have same : occurrences pattern (c :: text) = occurrences pattern text :=
      le_antisymm (all ▸ some.count_le alone written) occurrences_le_cons
    rw [replaceAfter_cons (not_isPrefix_of_occurrences_eq same), step (all.trans same)]

/-- The replacement of all occurrences is one of them. -/
theorem of_replaceAfter (alone : Separate pattern pattern) (written : pattern ≠ [])
    (text : List Char) :
    ReplacedIn pattern new text (replaceAfter pattern new 0 text) (occurrences pattern text) := by
  induction text using pass_induction [pattern] (by simpa using written.symm) with
  | nil => exact (occurrences_nil written).symm ▸ nil
  | found _ member rest step =>
    obtain rfl := List.mem_singleton.mp member
    rw [replaceAfter_append written, alone.occurrences_append written]
    exact step.hit
  | copied c rest absent step =>
    have absent := absent pattern (List.mem_singleton_self pattern)
    rw [replaceAfter_cons absent, occurrences_cons_of_not_isPrefix absent]
    exact step.keep

/-- Putting in a pattern for itself changes nothing. -/
theorem eq_of_self (some : ReplacedIn pattern pattern text result count) : result = text := by
  induction some with
  | nil => rfl
  | hit _ step => rw [step]
  | keep _ step => rw [step]

/-- Where text of the same length is put in, what is left of an occurrence shows, unless
it is the same text. -/
theorem count_of_length (some : ReplacedIn pattern new text result count)
    (alone : Separate pattern pattern) (written : pattern ≠ [])
    (long : new.length = pattern.length) (other : new ≠ pattern)
    (all : result = replaceAfter pattern new 0 text) : count = occurrences pattern text := by
  induction some with
  | nil => exact (occurrences_nil written).symm
  | hit _ step =>
    rw [replaceAfter_append written] at all
    rw [alone.occurrences_append written, step (List.append_cancel_left all)]
  | @keep c text result count some step =>
    by_cases begun : pattern <+: c :: text
    · -- The occurrence is kept whole, for no other one begins within it.
      exfalso
      obtain ⟨rest, same⟩ := begun
      obtain ⟨d, behind, rfl⟩ := List.exists_cons_of_ne_nil written
      obtain ⟨rfl, rfl⟩ := List.cons.inj same
      obtain ⟨result', rfl, -⟩ := some.of_append fun k bound =>
        alone.not_isPrefix_later (k := k + 1) (Nat.succ_pos k) (Nat.succ_lt_succ bound)
      have all : d :: behind ++ result' = new ++ replaceAfter (d :: behind) new 0 rest :=
        all.trans (replaceAfter_append written)
      exact other (List.append_inj all.symm long).1
    · rw [replaceAfter_cons begun] at all
      rw [occurrences_cons_of_not_isPrefix begun, step (List.cons.inj all).2]

/-- **Which replacement is the one of all occurrences.** The one that has as many as there
are, and any one if the pattern is put in for itself. -/
theorem eq_replace_iff (some : ReplacedIn pattern new text result count)
    (alone : Separate pattern pattern) (written : pattern ≠ []) :
    replaceAfter pattern new 0 text = result ↔
      new = pattern ∨ occurrences pattern text = count := by
  have every : ReplacedIn pattern new text (replaceAfter pattern new 0 text)
      (occurrences pattern text) := of_replaceAfter alone written text
  constructor
  · intro same
    by_cases long : new.length = pattern.length
    · refine or_iff_not_imp_left.mpr fun other => ?_
      exact (some.count_of_length alone written long other same.symm).symm
    · have few := some.length_eq
      have many := every.length_eq
      rw [same] at many
      have : (occurrences pattern text : ℤ) = count := by
        have : ((occurrences pattern text : ℤ) - count) * (new.length - pattern.length) = 0 := by
          push_cast [← Nat.cast_inj (R := ℤ)] at few many
          linarith
        rcases mul_eq_zero.mp this with same | same
        · exact sub_eq_zero.mp same
        · exact absurd (by exact_mod_cast sub_eq_zero.mp same) long
      exact Or.inr (by exact_mod_cast this)
  · rintro (rfl | same)
    · rw [every.eq_of_self, some.eq_of_self]
    · exact (some.eq_of_count alone written same.symm).symm

end ReplacedIn

/-! ## One pass for a table -/

/-- Patterns that can be replaced in one pass: none begins within an occurrence of one of
them. -/
structure Marks (patterns : List (List Char)) : Prop where
  written : [] ∉ patterns
  distinct : patterns.Nodup
  separate : ∀ first ∈ patterns, ∀ second ∈ patterns, Separate first second

theorem Marks.sublist {fewer patterns : List (List Char)} (marks : Marks patterns)
    (part : fewer.Sublist patterns) : Marks fewer where
  written empty := marks.written (part.subset empty)
  distinct := marks.distinct.sublist part
  separate first member second other :=
    marks.separate first (part.subset member) second (part.subset other)

theorem Marks.ne_nil {patterns : List (List Char)} (marks : Marks patterns)
    (member : pattern ∈ patterns) : pattern ≠ [] := fun empty => marks.written (empty ▸ member)

theorem fillAfter_eq_fill_drop (table : List (List Char × List Char)) (dropped : Nat)
    (text : List Char) : fillAfter table dropped text = fill table (text.drop dropped) := by
  induction text generalizing dropped with
  | nil => cases dropped <;> rfl
  | cons c rest step =>
    cases dropped with
    | zero => rfl
    | succ dropped => exact step dropped

@[simp]
theorem fill_nil (table : List (List Char × List Char)) : fill table [] = [] := rfl

/-- Without a pattern the pass copies everything. -/
@[simp]
theorem fill_no_entry (text : List Char) : fill [] text = text := by
  induction text with
  | nil => rfl
  | cons c rest step => exact congrArg (c :: ·) step

/-- Where a pattern of the table begins, it is the one that is found. -/
theorem find?_eq_some (marks : Marks (table.map Prod.fst)) (member : (pattern, new) ∈ table) :
    (table.find? fun entry => entry.1.isPrefixOf (pattern ++ rest)) = some (pattern, new) := by
  have known : pattern ∈ table.map Prod.fst := List.mem_map_of_mem (f := Prod.fst) member
  obtain ⟨entry, found⟩ : ∃ entry, (table.find? fun entry =>
      entry.1.isPrefixOf (pattern ++ rest)) = some entry :=
    Option.isSome_iff_exists.mp (List.find?_isSome.mpr
      ⟨_, member, List.isPrefixOf_iff_prefix.mpr (List.prefix_append _ _)⟩)
  have listed := List.mem_of_find?_eq_some found
  have begun := List.find?_some found
  have same : pattern = entry.1 := of_not_not fun other =>
    (marks.separate _ known _ (List.mem_map_of_mem (f := Prod.fst) listed)).not_isPrefix
      (k := 0) other (List.length_pos_of_ne_nil (marks.ne_nil known))
      (List.isPrefixOf_iff_prefix.mp begun)
  rw [found, List.inj_on_of_nodup_map marks.distinct listed member same.symm]

/-- The pass puts in the text for a pattern of the table. -/
theorem fill_append (marks : Marks (table.map Prod.fst)) (member : (pattern, new) ∈ table) :
    fill table (pattern ++ rest) = new ++ fill table rest := by
  have first : (table.find? fun entry => entry.1.isPrefixOf (pattern ++ rest)) =
      some (pattern, new) := find?_eq_some marks member
  obtain ⟨c, behind, rfl⟩ := List.exists_cons_of_ne_nil
    (marks.ne_nil (List.mem_map_of_mem (f := Prod.fst) member))
  rw [List.cons_append] at first ⊢
  simp only [fill, fillAfter, first, List.length_cons, Nat.add_sub_cancel]
  rw [fillAfter_eq_fill_drop, List.drop_left]
  rfl

/-- The pass copies a character where no pattern begins. -/
theorem fill_cons (absent : ∀ pattern ∈ table.map Prod.fst, ¬ pattern <+: c :: rest) :
    fill table (c :: rest) = c :: fill table rest := by
  have none : (table.find? fun entry => entry.1.isPrefixOf (c :: rest)) = none :=
    List.find?_eq_none.mpr fun entry member begun =>
      absent entry.1 (List.mem_map_of_mem (f := Prod.fst) member)
        (List.isPrefixOf_iff_prefix.mp begun)
  simp only [fill, fillAfter, none]

/-- The pass copies text within which no pattern begins. -/
theorem fill_append_of_absent (absent : ∀ k < front.length, ∀ pattern ∈ table.map Prod.fst,
    ¬ pattern <+: front.drop k ++ rest) :
    fill table (front ++ rest) = front ++ fill table rest := by
  induction front with
  | nil => rfl
  | cons c front step =>
    rw [List.cons_append, fill_cons (by simpa using absent 0),
      step fun k bound => absent (k + 1) (Nat.succ_lt_succ bound), List.cons_append]

/-- **One more pattern.** What the pass adds for one more pattern is a replacement of as many
occurrences as the format has, in what the pass gives without it. -/
theorem replacedIn_fill (marks : Marks ((table ++ [(pattern, new)]).map Prod.fst))
    (format : List Char) :
    ReplacedIn pattern new (fill table format) (fill (table ++ [(pattern, new)]) format)
      (occurrences pattern format) := by
  have last : pattern ∈ (table ++ [(pattern, new)]).map Prod.fst := by simp
  have fewer : Marks (table.map Prod.fst) := marks.sublist (by simp)
  have later : pattern ∉ table.map Prod.fst := by
    have := marks.distinct
    rw [List.map_append, List.nodup_append] at this
    exact fun member => this.2.2 pattern member pattern (by simp) rfl
  induction format using pass_induction ((table ++ [(pattern, new)]).map Prod.fst)
    marks.written with
  | nil => exact (occurrences_nil (marks.ne_nil last)).symm ▸ ReplacedIn.nil
  | found other member rest step =>
    obtain ⟨⟨other, text⟩, listed, rfl⟩ := List.mem_map.mp member
    rw [fill_append marks listed]
    rcases List.mem_append.mp listed with member | same
    · have known : other ∈ table.map Prod.fst := List.mem_map_of_mem (f := Prod.fst) member
      have apart : other ≠ pattern := fun same => later (same ▸ known)
      rw [fill_append fewer member, occurrences_append fun k bound =>
        (marks.separate _ (by simp [known]) _ last).not_isPrefix apart bound]
      exact step.append text
    · obtain ⟨rfl, rfl⟩ := Prod.mk.inj (List.mem_singleton.mp same)
      rw [fill_append_of_absent,
        (marks.separate _ last _ last).occurrences_append (marks.ne_nil last)]
      · exact step.hit
      · intro k bound second known
        exact (marks.separate _ last _ (by simp [known])).not_isPrefix
          (fun same => later (same ▸ known)) bound
  | copied c rest absent step =>
    rw [fill_cons absent, fill_cons fun second known => absent second (by simp [known]),
      occurrences_cons_of_not_isPrefix (absent pattern last)]
    exact step.keep

/-! ## Plain text -/

/-- A pattern does not begin within a text that is plain for it. -/
theorem Plain.not_isPrefix (plain : Plain pattern front) (written : pattern ≠ []) {k : Nat}
    (bound : k < front.length) : ¬ pattern <+: front.drop k ++ rest := by
  intro begun
  obtain ⟨c, behind, rfl⟩ := List.exists_cons_of_ne_nil written
  rw [List.drop_eq_getElem_cons bound, List.cons_append, List.cons_prefix_cons] at begun
  exact (plain.1 _ (List.getElem_mem bound)).1 (congrArg some begun.1)

/-- The end of a pattern stands after a pass only where it stood before, if what is put in
is plain for it. -/
theorem isPrefix_of_isPrefix_fill (marks : Marks (table.map Prod.fst))
    (plain : ∀ entry ∈ table, Plain pattern entry.2) (format : List Char) {part : List Char}
    (ending : part <:+ pattern) (begun : part <+: fill table format) : part <+: format := by
  induction format using pass_induction (table.map Prod.fst) marks.written generalizing part with
  | nil => exact begun
  | found other known rest step =>
    obtain ⟨⟨other, text⟩, listed, rfl⟩ := List.mem_map.mp known
    rw [fill_append marks listed] at begun
    rcases List.prefix_or_prefix_of_prefix begun (List.prefix_append _ _) with inside | around
    · rcases List.eq_nil_or_concat part with rfl | ⟨before, c, rfl⟩
      · exact List.nil_prefix
      · obtain ⟨more, rfl⟩ := ending
        exact absurd (by simp) ((plain _ listed).1 c (inside.subset (by simp))).2
    · exact absurd (around.isInfix.trans ending.isInfix) (plain _ listed).2
  | copied c rest absent step =>
    rw [fill_cons absent] at begun
    cases part with
    | nil => exact List.nil_prefix
    | cons d part =>
      obtain ⟨rfl, behind⟩ := List.cons_prefix_cons.mp begun
      exact List.cons_prefix_cons.mpr
        ⟨rfl, step ((List.suffix_cons _ _).trans ending) behind⟩

/-- A pass that puts in plain texts makes no occurrence of a pattern. -/
theorem occurrences_fill (marks : Marks (table.map Prod.fst ++ [pattern]))
    (plain : ∀ entry ∈ table, Plain pattern entry.2) (format : List Char) :
    occurrences pattern (fill table format) = occurrences pattern format := by
  have last : pattern ∈ table.map Prod.fst ++ [pattern] := by simp
  have written := marks.ne_nil last
  have alone := marks.separate _ last _ last
  have fewer : Marks (table.map Prod.fst) := marks.sublist (List.sublist_append_left _ _)
  have apart : ∀ other ∈ table.map Prod.fst, other ≠ pattern := fun other known =>
    (List.nodup_append.mp marks.distinct).2.2 other known pattern (List.mem_singleton_self _)
  induction format using pass_induction (table.map Prod.fst ++ [pattern]) marks.written with
  | nil => rfl
  | found other known rest step =>
    rcases List.mem_append.mp known with listed | same
    · obtain ⟨⟨other, text⟩, member, rfl⟩ := List.mem_map.mp listed
      rw [fill_append fewer member,
        occurrences_append fun k bound => (plain _ member).not_isPrefix written bound,
        occurrences_append fun k bound =>
          (marks.separate _ known _ last).not_isPrefix (apart _ listed) bound, step]
    · obtain rfl := List.mem_singleton.mp same
      rw [fill_append_of_absent fun k bound second other =>
          (marks.separate _ last _ (by simp [other])).not_isPrefix (apart _ other).symm bound,
        alone.occurrences_append written, alone.occurrences_append written, step]
  | copied c rest absent step =>
    have copied : fill table (c :: rest) = c :: fill table rest :=
      fill_cons fun second known => absent second (by simp [known])
    have still : ¬ pattern <+: c :: fill table rest := fun begun =>
      absent pattern last
        (isPrefix_of_isPrefix_fill fewer plain _ List.suffix_rfl (copied.symm ▸ begun))
    rw [copied, occurrences_cons_of_not_isPrefix still,
      occurrences_cons_of_not_isPrefix (absent pattern last), step]

end BpfDepot.Text
