import BpfDepot.Path

/-! # Paths inside a directory

Joining a name to the path of a directory adds one name at the end
(`Path.names_join`), whether the directory is given with a slash at its end, without
one or as the empty path (`Path.parts_join`).
-/

namespace BpfDepot

namespace Text

variable {α : Type} [DecidableEq α]

theorem pieces_of_not_mem {sep : α} {text : List α} (absent : sep ∉ text) :
    pieces sep text = [text] := by
  induction text with
  | nil => rfl
  | cons c rest ih =>
      rw [List.mem_cons, not_or] at absent
      rw [pieces, if_neg (Ne.symm absent.1), ih absent.2]

theorem pieces_ne_nil (sep : α) (text : List α) : pieces sep text ≠ [] := by
  cases text with
  | nil => exact List.cons_ne_nil _ _
  | cons c rest =>
      rw [pieces]
      split
      · exact List.cons_ne_nil _ _
      · split <;> exact List.cons_ne_nil _ _

/-- The pieces around a separator are those before it and those behind it. -/
theorem pieces_append (sep : α) (before after : List α) :
    pieces sep (before ++ sep :: after) = pieces sep before ++ pieces sep after := by
  induction before with
  | nil => simp [pieces]
  | cons c before ih =>
      rw [List.cons_append, pieces, pieces]
      by_cases same : c = sep
      · rw [if_pos same, if_pos same, ih, List.cons_append]
      · obtain ⟨first, others, begun⟩ := List.exists_cons_of_ne_nil (pieces_ne_nil sep before)
        rw [if_neg same, if_neg same, ih, begun]
        rfl

end Text

namespace Path

/-- A name that a path can add to a directory. -/
structure IsName (name : String) : Prop where
  /-- It is there. -/
  present : name ≠ ""
  /-- It does not stand for the directory itself. -/
  inside : name ≠ "."
  /-- It does not stand for the directory around it. -/
  below : name ≠ ".."
  /-- It is one part of a path. -/
  single : '/' ∉ name.toList

variable {name : String}

theorem IsName.not_absolute (plain : IsName name) : isAbsolute name = false := by
  unfold isAbsolute
  rw [decide_eq_false_iff_not]
  intro first
  exact plain.single (List.mem_of_head? first)

theorem isAbsolute_append {path : String} (present : path ≠ "") (more : String) :
    isAbsolute (path ++ more) = isAbsolute path := by
  obtain ⟨c, rest, begun⟩ :=
    List.exists_cons_of_ne_nil fun empty => present (String.toList_eq_nil_iff.mp empty)
  unfold isAbsolute
  rw [String.toList_append, begun]
  rfl

/-- A path inside a directory starts where the directory's path does. -/
theorem isAbsolute_join (plain : IsName name) (directory : String) :
    isAbsolute (join directory name) = isAbsolute directory := by
  unfold join
  rw [plain.not_absolute, Bool.false_or]
  split
  · next empty =>
    rw [plain.not_absolute, of_decide_eq_true empty]
    rfl
  · next present =>
    have nonempty : directory ≠ "" := fun empty => present (decide_eq_true empty)
    split
    · exact isAbsolute_append nonempty name
    · rw [String.append_assoc, isAbsolute_append nonempty]

/-- The parts of a path up to a slash at a place. -/
def front (path : String) (before : List Char) : List String :=
  let pieces := (Text.pieces '/' before).map String.ofList
  if isAbsolute path then pieces.drop 1 else pieces

/-- What stands behind the last slash of a path is its last part. -/
theorem parts_eq_append {path last : String} {before : List Char} (single : '/' ∉ last.toList)
    (whole : path.toList = before ++ '/' :: last.toList) :
    parts path = front path before ++ [last] := by
  have pieces : (Text.pieces '/' path.toList).map String.ofList =
      (Text.pieces '/' before).map String.ofList ++ [last] := by
    rw [whole, Text.pieces_append, Text.pieces_of_not_mem single, List.map_append,
      List.map_singleton, String.ofList_toList]
  have counted : 1 ≤ ((Text.pieces '/' before).map String.ofList).length := by
    rw [List.length_map]
    exact List.length_pos_iff.mpr (Text.pieces_ne_nil _ _)
  unfold parts front
  simp only [pieces]
  split
  · rw [List.drop_append_of_le_length counted]
  · rfl

/-- **Parts of a path inside a directory.** The last part is the name, and those before
it name the directory. -/
theorem parts_join (plain : IsName name) (directory : String) :
    ∃ before, parts (join directory name) = before ++ [name] ∧
      before.filter (· ≠ "") = names directory := by
  have start := isAbsolute_join plain directory
  unfold join at start ⊢
  rw [plain.not_absolute, Bool.false_or] at start ⊢
  split
  · next empty =>
    refine ⟨[], ?_, ?_⟩
    · unfold parts
      simp [plain.not_absolute, Text.pieces_of_not_mem plain.single]
    · rw [of_decide_eq_true empty]
      rfl
  · next present =>
    rw [if_neg present] at start
    split
    · next slash =>
      rw [if_pos slash] at start
      obtain ⟨before, written⟩ := List.getLast?_eq_some_iff.mp slash
      have whole : directory.toList = before ++ '/' :: "".toList := written
      refine ⟨front directory before, ?_, ?_⟩
      · have joined : (directory ++ name).toList = before ++ '/' :: name.toList := by
          rw [String.toList_append, written, List.append_assoc]
          rfl
        rw [parts_eq_append plain.single joined, front, start]
        rfl
      · rw [names, parts_eq_append (by decide) whole, List.filter_append]
        simp
    · next slash =>
      rw [if_neg slash] at start
      refine ⟨parts directory, ?_, rfl⟩
      have joined : (directory ++ "/" ++ name).toList =
          directory.toList ++ '/' :: name.toList := by
        rw [String.toList_append, String.toList_append, List.append_assoc]
        rfl
      rw [parts_eq_append plain.single joined, front, start]
      rfl

/-- A path inside a directory leads through the directory's names to one more. -/
theorem names_join (plain : IsName name) (directory : String) :
    names (join directory name) = names directory ++ [name] := by
  obtain ⟨before, written, same⟩ := parts_join plain directory
  rw [names, written, List.filter_append, same]
  simp [plain.present]

theorem join_ne_empty (plain : IsName name) (directory : String) : join directory name ≠ "" := by
  intro empty
  have named := names_join plain directory
  rw [empty] at named
  exact absurd named.symm (List.append_ne_nil_of_right_ne_nil _ (List.cons_ne_nil _ _))

/-- What is made beside something in a directory is in the directory too. -/
theorem temporary_join (plain : IsName name) (directory : String) :
    temporary (join directory name) = join directory (temporary name) := by
  have start : isAbsolute (temporary name) = isAbsolute name :=
    isAbsolute_append plain.present _
  unfold join
  rw [start, temporary, temporary, plain.not_absolute, Bool.false_or]
  split
  · rfl
  · split <;> simp only [String.append_assoc]

/-- A name that has no point is one that a path can add, and so is what is made beside it. -/
theorem isName_of_plain (present : name ≠ "") (plain : ∀ c ∈ name.toList, c ≠ '/' ∧ c ≠ '.') :
    IsName name ∧ IsName (temporary name) := by
  have point : '.' ∉ name.toList := fun member => (plain _ member).2 rfl
  have slash : '/' ∉ name.toList := fun member => (plain _ member).1 rfl
  have other (text : String) (long : text.length < 4) : temporary name ≠ text := by
    rintro rfl
    rw [temporary, String.length_append] at long
    have counted : ".tmp".length = 4 := rfl
    omega
  refine ⟨⟨present, ?_, ?_, slash⟩, ⟨other _ (by decide), other _ (by decide),
    other _ (by decide), ?_⟩⟩
  · rintro rfl
    exact point (by decide)
  · rintro rfl
    exact point (by decide)
  · rw [temporary, String.toList_append, List.mem_append, not_or]
    exact ⟨slash, by decide⟩

end Path

end BpfDepot
