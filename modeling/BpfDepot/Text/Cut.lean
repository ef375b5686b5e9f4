/-! # Cutting a text at a separator

A text is cut at the first or at the last occurrence of a separator, or into the
pieces between all of its occurrences. -/

namespace BpfDepot.Text

variable {α : Type} [DecidableEq α]

/-- The parts before and after the first occurrence of a separator. -/
def cutFirst? (sep : α) : List α → Option (List α × List α)
  | [] => none
  | c :: rest =>
    if c = sep then some ([], rest)
    else (cutFirst? sep rest).map fun parts => (c :: parts.1, parts.2)

/-- The parts before and after the last occurrence of a separator. -/
def cutLast? (sep : α) : List α → Option (List α × List α)
  | [] => none
  | c :: rest =>
    match cutLast? sep rest with
    | some parts => some (c :: parts.1, parts.2)
    | none => if c = sep then some ([], rest) else none

/-- The pieces between the occurrences of a separator, one more than there are
occurrences. -/
def pieces (sep : α) : List α → List (List α)
  | [] => [[]]
  | c :: rest =>
    if c = sep then [] :: pieces sep rest
    else match pieces sep rest with
      | first :: others => (c :: first) :: others
      | [] => [[c]]

theorem cutFirst?_eq_none_iff {sep : α} {text : List α} :
    cutFirst? sep text = none ↔ sep ∉ text := by
  induction text with
  | nil => simp [cutFirst?]
  | cons c rest ih =>
    by_cases same : c = sep
    · simp [cutFirst?, same]
    · simp [cutFirst?, same, ih, Ne.symm same]

theorem cutFirst?_eq_some_iff {sep : α} {text before after : List α} :
    cutFirst? sep text = some (before, after) ↔
      text = before ++ sep :: after ∧ sep ∉ before := by
  induction text generalizing before with
  | nil => simp [cutFirst?]
  | cons c rest ih =>
    by_cases same : c = sep
    · subst same
      cases before <;> simp [cutFirst?, eq_comm]
      intro h; simp [h]
    · cases before with
      | nil => simp [cutFirst?, same]
      | cons b before =>
        simp only [cutFirst?, same, if_false, Option.map_eq_some_iff, Prod.exists, Prod.mk.injEq,
          List.cons.injEq, List.cons_append, List.mem_cons, not_or]
        constructor
        · rintro ⟨x, y, cut, ⟨rfl, rfl⟩, rfl⟩
          have := ih.mp cut
          exact ⟨⟨rfl, this.1⟩, fun h => same h.symm, this.2⟩
        · rintro ⟨⟨rfl, rfl⟩, -, absent⟩
          exact ⟨before, after, ih.mpr ⟨rfl, absent⟩, ⟨rfl, rfl⟩, rfl⟩

theorem cutLast?_eq_none_iff {sep : α} {text : List α} :
    cutLast? sep text = none ↔ sep ∉ text := by
  induction text with
  | nil => simp [cutLast?]
  | cons c rest ih =>
    cases found : cutLast? sep rest with
    | none =>
      have := ih.mp found
      by_cases same : c = sep
      · simp [cutLast?, found, same]
      · simp [cutLast?, found, same, this, Ne.symm same]
    | some parts =>
      have : sep ∈ rest := by
        apply Classical.byContradiction
        intro absent
        rw [ih.mpr absent] at found
        cases found
      simp [cutLast?, found, this]

theorem cutLast?_eq_some_iff {sep : α} {text before after : List α} :
    cutLast? sep text = some (before, after) ↔
      text = before ++ sep :: after ∧ sep ∉ after := by
  induction text generalizing before after with
  | nil => simp [cutLast?]
  | cons c rest ih =>
    cases found : cutLast? sep rest with
    | none =>
      have absent := cutLast?_eq_none_iff.mp found
      by_cases same : c = sep
      · subst same
        cases before with
        | nil => simp [cutLast?, found]; intro h; subst h; exact absent
        | cons b before =>
          simp only [cutLast?, found, if_true, Option.some.injEq, Prod.mk.injEq, List.nil_eq,
            reduceCtorEq, false_and, List.cons_append, List.cons.injEq, false_iff, not_and]
          rintro ⟨rfl, rfl⟩
          simp at absent
      · cases before with
        | nil => simp [cutLast?, found, same]
        | cons b before =>
          simp only [cutLast?, found, same, if_false, reduceCtorEq, List.cons_append,
            List.cons.injEq, false_iff, not_and]
          rintro ⟨rfl, rfl⟩
          simp at absent
    | some parts =>
      obtain ⟨x, y⟩ := parts
      have split := ih.mp found
      cases before with
      | nil =>
        simp only [cutLast?, found, Option.some.injEq, Prod.mk.injEq, reduceCtorEq, false_and,
          List.nil_append, List.cons.injEq, false_iff, not_and]
        rintro ⟨rfl, rfl⟩ absent
        rw [split.1] at absent
        simp at absent
      | cons b before =>
        simp only [cutLast?, found, Option.some.injEq, Prod.mk.injEq, List.cons.injEq,
          List.cons_append]
        constructor
        · rintro ⟨⟨rfl, rfl⟩, rfl⟩
          exact ⟨⟨rfl, split.1⟩, split.2⟩
        · rintro ⟨⟨rfl, rest_eq⟩, absent⟩
          have := ih.mpr ⟨rest_eq, absent⟩
          rw [found] at this
          simp only [Option.some.injEq, Prod.mk.injEq] at this
          exact ⟨⟨rfl, this.1⟩, this.2⟩

end BpfDepot.Text
