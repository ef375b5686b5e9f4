import BpfDepot.Listing
import BpfDepot.Proofs.Text.Replace

/-! # What a format shows

A row is shown by replacing the names of its fields in a format one after the other. One
pass over the format puts in the same texts and never looks at them again. The two agree
as long as the texts that were put in make no name of a field that the format does not
have (`Row.replaced_eq_filled_iff`), which is so for every format if the texts are plain.
The info of a package is free text, and one that has the name of a field in it is not
shown as it is (`Row.info_rescanned`).
-/

namespace BpfDepot.Row

open Text

/-- The format after the replacements for the first fields. -/
def replaced (row : Row) (count : Nat) (format : String) : String :=
  (row.fields.take count).foldl
    (fun text field => Text.replace (placeholder field.1) field.2 text) format

/-- What the first fields are named by, and their texts. -/
def entries (row : Row) (count : Nat) : List (List Char × List Char) :=
  (row.fields.take count).map fun field => ((placeholder field.1).toList, field.2.toList)

/-- What one pass over the format makes of it, for the first fields. -/
def filled (row : Row) (count : Nat) (format : String) : String :=
  String.ofList (fill (row.entries count) format.toList)

/-- No text that is put in makes the name of a field that comes later: each field is found
as often as the format names it. A field that is put in for itself may be found anywhere. -/
def Unmixed (row : Row) (format : String) : Prop :=
  ∀ count field, row.fields[count]? = some field → field.2 = placeholder field.1 ∨
    occurrences (placeholder field.1).toList (row.filled count format).toList =
      occurrences (placeholder field.1).toList format.toList

/-- The texts of all fields but the last one are plain for the names of all fields: there
is no brace in them, and they are no part of a name. -/
def Inert (row : Row) : Prop :=
  ∀ field ∈ row.fields.dropLast, ∀ other ∈ row.fields,
    Plain (placeholder other.1).toList field.2.toList

instance (row : Row) : Decidable row.Inert :=
  inferInstanceAs (Decidable (∀ field ∈ row.fields.dropLast, _))

/-- The names of the fields in braces. -/
def placeholders : List (List Char) :=
  ["Repository", "Tag", "Digest", "Size", "Created", "Info", "Reference"].map
    fun name => (placeholder name).toList

variable (row : Row) (format : String) {count : Nat} {field : String × String}

theorem line_eq_replaced : row.line format = row.replaced row.fields.length format := rfl

theorem marks_placeholders : Marks placeholders where
  written := by decide
  distinct := by decide
  separate := by decide

theorem entries_fst (count : Nat) :
    (row.entries count).map Prod.fst = placeholders.take count := by
  simp [entries, placeholders, fields]

theorem marks_entries (count : Nat) : Marks ((row.entries count).map Prod.fst) :=
  row.entries_fst count ▸ marks_placeholders.sublist (List.take_sublist _ _)

variable {row}

theorem entries_succ (found : row.fields[count]? = some field) :
    row.entries (count + 1) =
      row.entries count ++ [((placeholder field.1).toList, field.2.toList)] := by
  rw [entries, List.take_add_one, found, List.map_append]
  rfl

theorem replaced_succ (found : row.fields[count]? = some field) :
    row.replaced (count + 1) format =
      Text.replace (placeholder field.1) field.2 (row.replaced count format) := by
  rw [replaced, List.take_add_one, found, List.foldl_append]
  rfl

/-- Behind the last field nothing more is replaced. -/
theorem replaced_of_none (absent : row.fields[count]? = none) :
    row.replaced (count + 1) format = row.replaced count format ∧
      row.filled (count + 1) format = row.filled count format := by
  rw [replaced, filled, entries, List.take_add_one, absent, Option.toList_none, List.append_nil]
  exact ⟨rfl, rfl⟩

/-- One more replacement goes on as the pass does exactly if the field is found as often as
the format names it. -/
theorem replace_filled_iff (found : row.fields[count]? = some field) :
    Text.replace (placeholder field.1) field.2 (row.filled count format) =
        row.filled (count + 1) format ↔
      field.2 = placeholder field.1 ∨
        occurrences (placeholder field.1).toList (row.filled count format).toList =
          occurrences (placeholder field.1).toList format.toList := by
  have marks := row.marks_entries (count + 1)
  rw [entries_succ found] at marks
  have last : (placeholder field.1).toList ∈ (row.entries count ++
      [((placeholder field.1).toList, field.2.toList)]).map Prod.fst := by simp
  have one := (replacedIn_fill marks format.toList).eq_replace_iff
    (marks.separate _ last _ last) (marks.ne_nil last)
  rw [Text.replace, filled, filled, entries_succ found, String.ofList_inj, String.toList_ofList,
    one, String.toList_inj]

/-- While what is put in makes no name of a field, the replacements go along with the pass. -/
theorem replaced_eq_filled (unmixed : row.Unmixed format) (count : Nat) :
    row.replaced count format = row.filled count format := by
  induction count with
  | zero =>
    exact (String.ofList_toList ▸ congrArg String.ofList (fill_no_entry format.toList)).symm
  | succ count step =>
    cases found : row.fields[count]? with
    | none =>
      obtain ⟨same, same'⟩ := replaced_of_none format found
      rw [same, same', step]
    | some field =>
      rw [replaced_succ format found, step]
      exact (replace_filled_iff format found).mpr (unmixed count field found)

/-- Plain texts make no name of a field, whatever the format. -/
theorem Inert.unmixed (plain : row.Inert) : row.Unmixed format := by
  intro count field found
  obtain ⟨bound, same⟩ := List.getElem?_eq_some_iff.mp found
  have member : field ∈ row.fields := same ▸ List.getElem_mem bound
  have marks := row.marks_entries (count + 1)
  rw [entries_succ found, List.map_append] at marks
  refine Or.inr ?_
  rw [filled, String.toList_ofList]
  refine occurrences_fill marks (fun entry listed => ?_) format.toList
  obtain ⟨other, before, rfl⟩ := List.mem_map.mp listed
  refine plain other ?_ field member
  rw [List.dropLast_eq_take]
  exact (List.take_subset_take_left _ (Nat.le_sub_one_of_lt bound)) before

/-- **What a format shows.** The replacements one after the other go along with one pass over
the format exactly if no text that is put in makes the name of a later field. Then the row is
shown as the pass has it, each name of a field in the format replaced by the text of the field
and everything else copied. If there is no brace in the texts of the fields, and none is a part
of the name of a field in braces, this is so for every format. -/
theorem replaced_eq_filled_iff (row : Row) (format : String) :
    ((∀ count, row.replaced count format = row.filled count format) ↔ row.Unmixed format) ∧
      (row.Unmixed format → row.line format = row.filled row.fields.length format) ∧
      (row.Inert → row.Unmixed format) := by
  refine ⟨⟨fun along count field found => ?_, fun unmixed => replaced_eq_filled format unmixed⟩,
    fun unmixed => (row.line_eq_replaced format).trans (replaced_eq_filled format unmixed _),
    fun plain => plain.unmixed format⟩
  refine (replace_filled_iff format found).mp ?_
  rw [← along count, ← replaced_succ format found, along (count + 1)]

/-- Texts as they are shown of most packages are plain. -/
example : Row.Inert
    { reference := "h.io/a:v", repository := "h.io/a", tag := "v", digest := "sha256:01",
      size := "13 B", created := "just now", info := "tcp tracer" } := by
  decide +kernel

/-- An info that has the name of a later field in it is not shown as it is: of the stored
package, the format for the info shows the reference. -/
theorem info_rescanned : ∃ now entry format,
    (ofStored now entry).line format ≠ (ofStored now entry).filled 7 format := by
  let now : Instant := .ofSecond 0 0 0
  let entry : StoredPackage := {
    reference := "docker.io/library/a:latest"
    digest := "sha256:0123456789abcdef"
    size := 13
    info := placeholder "Reference"
    created := now
    path := "s/sha256/0123456789abcdef" }
  refine ⟨now, entry, placeholder "Info", ?_⟩
  decide +kernel

end BpfDepot.Row
