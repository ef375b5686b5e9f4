import BpfDepot.Reference

/-! # Where a reference is cut

The three cuts that reading a reference makes, each described from both sides:
what a cut says of the text it was made in (`Reference.splitDigest_eq_some_iff`,
`Reference.splitTag_eq_some_iff`, `Reference.splitRegistry_eq_some`), and that a
text put together again is cut at the same place. -/

namespace BpfDepot

namespace Text

theorem trim_eq_self {text : List Char}
    (front : ∀ c, text.head? = some c → isBlank c = false)
    (back : ∀ c, text.getLast? = some c → isBlank c = false) : trim text = text := by
  have kept (cs : List Char) (first : ∀ c, cs.head? = some c → isBlank c = false) :
      cs.dropWhile isBlank = cs := by
    cases cs with
    | nil => rfl
    | cons c cs => rw [List.dropWhile_cons_of_neg (by rw [first c rfl]; exact Bool.false_ne_true)]
  unfold trim trimEnd
  rw [kept text front, kept text.reverse (by rwa [List.head?_reverse]), List.reverse_reverse]

theorem toList_trimmed (text : String) : (trimmed text).toList = trim text.toList :=
  String.toList_ofList

theorem head?_dropWhile_isBlank {text : List Char} {c : Char}
    (first : (text.dropWhile isBlank).head? = some c) : isBlank c = false := by
  have stopped := List.head?_dropWhile_not isBlank text
  rw [first] at stopped
  simpa using stopped

theorem getLast?_trim {text : List Char} {c : Char} (last : (trim text).getLast? = some c) :
    isBlank c = false := by
  unfold trim trimEnd at last
  rw [List.getLast?_reverse] at last
  exact head?_dropWhile_isBlank last

theorem head?_trim {text : List Char} {c : Char} (first : (trim text).head? = some c) :
    isBlank c = false := by
  let dropped := text.dropWhile isBlank
  have front : trim text <+: dropped := by
    unfold trim trimEnd
    rw [← List.reverse_suffix, List.reverse_reverse]
    exact List.dropWhile_suffix isBlank
  obtain ⟨rest, whole⟩ := front
  have begun : dropped.head? = some c := by
    rw [← whole, List.head?_append, first]
    rfl
  exact head?_dropWhile_isBlank begun

/-- The part of a text after its last separator, which is the whole text if there is none. -/
def lastPiece (sep : Char) (text : List Char) : List Char :=
  match cutLast? sep text with
  | some (_, after) => after
  | none => text

theorem lastPiece_of_not_mem {sep : Char} {text : List Char} (absent : sep ∉ text) :
    lastPiece sep text = text := by
  unfold lastPiece
  rw [cutLast?_eq_none_iff.mpr absent]

/-- The last piece does not depend on what stands before a separator. -/
theorem lastPiece_append (sep : Char) (before after : List Char) :
    lastPiece sep (before ++ sep :: after) = lastPiece sep after := by
  cases cut : cutLast? sep after with
  | none =>
      have absent := cutLast?_eq_none_iff.mp cut
      have whole : cutLast? sep (before ++ sep :: after) = some (before, after) :=
        cutLast?_eq_some_iff.mpr ⟨rfl, absent⟩
      simp only [lastPiece, cut, whole]
  | some parts =>
      obtain ⟨front, back⟩ := parts
      obtain ⟨split, absent⟩ := cutLast?_eq_some_iff.mp cut
      have whole : cutLast? sep (before ++ sep :: after) =
          some (before ++ sep :: front, back) :=
        cutLast?_eq_some_iff.mpr ⟨by rw [split, List.append_assoc, List.cons_append], absent⟩
      simp only [lastPiece, cut, whole]

/-- What is added without a separator is added to the last piece. -/
theorem lastPiece_append_of_not_mem {sep : Char} {before after : List Char}
    (absent : sep ∉ after) : lastPiece sep (before ++ after) = lastPiece sep before ++ after := by
  cases cut : cutLast? sep before with
  | none =>
      have clear : sep ∉ before := cutLast?_eq_none_iff.mp cut
      have whole : sep ∉ before ++ after := by
        rw [List.mem_append, not_or]
        exact ⟨clear, absent⟩
      rw [lastPiece_of_not_mem whole, lastPiece_of_not_mem clear]
  | some parts =>
      obtain ⟨front, back⟩ := parts
      obtain ⟨split, clear⟩ := cutLast?_eq_some_iff.mp cut
      have whole : sep ∉ back ++ after := by
        rw [List.mem_append, not_or]
        exact ⟨clear, absent⟩
      rw [split, List.append_assoc, List.cons_append, lastPiece_append, lastPiece_append,
        lastPiece_of_not_mem whole, lastPiece_of_not_mem clear]

theorem mem_of_mem_lastPiece {sep c : Char} {text : List Char}
    (member : c ∈ lastPiece sep text) : c ∈ text := by
  unfold lastPiece at member
  cases cut : cutLast? sep text with
  | none =>
      rw [cut] at member
      exact member
  | some parts =>
      rw [cut] at member
      rw [(cutLast?_eq_some_iff.mp cut).1]
      exact List.mem_append_right _ (List.mem_cons_of_mem _ member)

end Text

namespace Reference

/-- The digest is what follows the last at sign. -/
theorem splitDigest_eq_some_iff {text name digest : List Char} :
    splitDigest text = (name, some digest) ↔ text = name ++ '@' :: digest ∧ '@' ∉ digest := by
  rw [← Text.cutLast?_eq_some_iff]
  unfold splitDigest
  cases Text.cutLast? '@' text with
  | none => simp
  | some parts => simp [Prod.ext_iff]

theorem splitDigest_eq_none_iff {text name : List Char} :
    splitDigest text = (name, none) ↔ name = text ∧ '@' ∉ text := by
  rw [← Text.cutLast?_eq_none_iff]
  unfold splitDigest
  cases Text.cutLast? '@' text with
  | none => simp [eq_comm]
  | some parts => simp

/-- The tag is what follows a colon in the last piece of a path. -/
theorem splitTag_eq_some_iff {text name tag : List Char} :
    splitTag text = (name, some tag) ↔ text = name ++ ':' :: tag ∧ ':' ∉ tag ∧ '/' ∉ tag := by
  unfold splitTag
  cases cut : Text.cutLast? ':' text with
  | none =>
      have absent := Text.cutLast?_eq_none_iff.mp cut
      constructor
      · intro same
        exact absurd (congrArg Prod.snd same) (by simp)
      · rintro ⟨rfl, -, -⟩
        exact absurd (List.mem_append_right _ List.mem_cons_self) absent
  | some parts =>
      obtain ⟨before, after⟩ := parts
      have located (front back : List Char) :
          (before, after) = (front, back) ↔ text = front ++ ':' :: back ∧ ':' ∉ back := by
        rw [← Text.cutLast?_eq_some_iff, cut, Option.some.injEq]
      by_cases slash : '/' ∈ after
      · simp only [List.contains_iff_mem, slash, ↓reduceIte, Prod.mk.injEq, reduceCtorEq,
          and_false, false_iff, not_and]
        intro split absent noSlash
        have same := (located name tag).mpr ⟨split, absent⟩
        rw [← (Prod.mk.injEq ..).mp same |>.2] at noSlash
        exact noSlash slash
      · simp only [List.contains_iff_mem, slash, ↓reduceIte, Prod.mk.injEq, Option.some.injEq]
        constructor
        · rintro ⟨rfl, rfl⟩
          obtain ⟨split, absent⟩ := (located before after).mp rfl
          exact ⟨split, absent, slash⟩
        · rintro ⟨split, absent, -⟩
          exact (Prod.mk.injEq ..).mp ((located name tag).mpr ⟨split, absent⟩)

theorem splitTag_eq_none_iff {text name : List Char} :
    splitTag text = (name, none) ↔ name = text ∧ ':' ∉ Text.lastPiece '/' text := by
  unfold splitTag
  cases cut : Text.cutLast? ':' text with
  | none =>
      have piece : ':' ∉ Text.lastPiece '/' text := fun member =>
        Text.cutLast?_eq_none_iff.mp cut (Text.mem_of_mem_lastPiece member)
      simp [piece, eq_comm]
  | some parts =>
      obtain ⟨before, after⟩ := parts
      obtain ⟨split, absent⟩ := Text.cutLast?_eq_some_iff.mp cut
      by_cases slash : '/' ∈ after
      · obtain ⟨front, back, rest⟩ := List.append_of_mem slash
        have piece : ':' ∉ Text.lastPiece '/' text := by
          have regrouped : text = (before ++ ':' :: front) ++ '/' :: back := by
            rw [split, rest, List.append_assoc, List.cons_append]
          rw [regrouped, Text.lastPiece_append]
          intro member
          apply absent
          rw [rest]
          exact List.mem_append_right _ (List.mem_cons_of_mem _ (Text.mem_of_mem_lastPiece member))
        simp [slash, piece, eq_comm]
      · have piece : ':' ∈ Text.lastPiece '/' text := by
          have clear : '/' ∉ ':' :: after := by
            rw [List.mem_cons, not_or]
            exact ⟨by decide, slash⟩
          rw [split, Text.lastPiece_append_of_not_mem clear]
          exact List.mem_append_right _ List.mem_cons_self
        simp [slash, piece]

/-- A registry and a repository with a slash between them are told apart again. -/
theorem splitRegistry_append {registry repository : List Char} (noSlash : '/' ∉ registry)
    (host : isRegistry registry = true) (named : repository ≠ []) :
    splitRegistry (registry ++ '/' :: repository) = some (registry, repository) := by
  have cut : Text.cutFirst? '/' (registry ++ '/' :: repository) = some (registry, repository) :=
    Text.cutFirst?_eq_some_iff.mpr ⟨rfl, noSlash⟩
  simp only [splitRegistry, cut, host, named, ↓reduceIte]

/-- **Registries.** A name is cut after its registry, or has none and is looked for in the
default registry, in the default folder if it names no folder. -/
theorem splitRegistry_eq_some_iff {name registry repository : List Char} :
    splitRegistry name = some (registry, repository) ↔
      (isRegistry registry = true ∧ '/' ∉ registry ∧ repository ≠ [] ∧
          name = registry ++ '/' :: repository) ∨
        (registry = defaultRegistry.toList ∧ repository = name ∧
          ∃ first rest, isRegistry first = false ∧ '/' ∉ first ∧ name = first ++ '/' :: rest) ∨
        (registry = defaultRegistry.toList ∧ repository = defaultFolder.toList ++ '/' :: name ∧
          '/' ∉ name ∧ name ≠ []) := by
  constructor
  · intro split
    unfold splitRegistry at split
    cases cut : Text.cutFirst? '/' name with
    | none =>
        have absent := Text.cutFirst?_eq_none_iff.mp cut
        by_cases named : name = []
        · simp only [cut, if_pos named, reduceCtorEq] at split
        · simp only [cut, named, List.contains_iff_mem, absent, ↓reduceIte, Option.some.injEq,
            Prod.mk.injEq] at split
          exact Or.inr (Or.inr ⟨split.1.symm, split.2.symm, absent, named⟩)
    | some parts =>
        obtain ⟨first, rest⟩ := parts
        obtain ⟨rfl, absent⟩ := Text.cutFirst?_eq_some_iff.mp cut
        cases host : isRegistry first with
        | true =>
            by_cases named : rest = []
            · simp only [cut, host, if_pos named, ↓reduceIte, reduceCtorEq] at split
            · simp only [cut, host, named, ↓reduceIte, Option.some.injEq, Prod.mk.injEq] at split
              obtain ⟨rfl, rfl⟩ := split
              exact Or.inl ⟨host, absent, named, rfl⟩
        | false =>
            simp only [cut, host, Bool.false_eq_true, ↓reduceIte, List.append_eq_nil_iff,
              reduceCtorEq, and_false, List.contains_iff_mem, List.mem_append, List.mem_cons,
              true_or, or_true, Option.some.injEq, Prod.mk.injEq] at split
            exact Or.inr (Or.inl ⟨split.1.symm, split.2.symm, first, rest, host, absent, rfl⟩)
  · rintro (⟨host, absent, named, rfl⟩ | ⟨rfl, rfl, first, rest, host, absent, rfl⟩ |
      ⟨rfl, rfl, absent, named⟩)
    · exact splitRegistry_append absent host named
    · have cut : Text.cutFirst? '/' (first ++ '/' :: rest) = some (first, rest) :=
        Text.cutFirst?_eq_some_iff.mpr ⟨rfl, absent⟩
      simp [splitRegistry, cut, host]
    · simp [splitRegistry, Text.cutFirst?_eq_none_iff.mpr absent, named, absent]

/-- A name with its registry and folder filled in is cut at the same place. -/
theorem splitRegistry_filled {name registry repository : List Char}
    (split : splitRegistry name = some (registry, repository)) :
    splitRegistry (registry ++ '/' :: repository) = some (registry, repository) := by
  obtain ⟨host, absent, named, -⟩ | ⟨rfl, rfl, first, rest, -, -, rfl⟩ | ⟨rfl, rfl, -, -⟩ :=
    splitRegistry_eq_some_iff.mp split
  · exact splitRegistry_append absent host named
  · exact splitRegistry_append (by decide) (by decide) (by simp)
  · exact splitRegistry_append (by decide) (by decide) (by simp)

/-- What a cut at the registry says of the name. -/
theorem splitRegistry_eq_some {name registry repository : List Char}
    (split : splitRegistry name = some (registry, repository)) :
    repository ≠ [] ∧
      ((isRegistry registry = true ∧ '/' ∉ registry ∧ name = registry ++ '/' :: repository) ∨
        (registry = defaultRegistry.toList ∧ name ≠ [] ∧
          (repository = name ∨
            ('/' ∉ name ∧ repository = defaultFolder.toList ++ '/' :: name)))) := by
  obtain ⟨host, absent, named, rfl⟩ | ⟨rfl, rfl, first, rest, -, -, rfl⟩ |
    ⟨rfl, rfl, absent, named⟩ := splitRegistry_eq_some_iff.mp split
  · exact ⟨named, Or.inl ⟨host, absent, rfl⟩⟩
  · have present : first ++ '/' :: rest ≠ [] := by simp
    exact ⟨present, Or.inr ⟨rfl, present, Or.inl rfl⟩⟩
  · exact ⟨by simp, Or.inr ⟨rfl, named, Or.inr ⟨absent, rfl⟩⟩⟩

end Reference

end BpfDepot
