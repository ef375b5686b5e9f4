import BpfDepot.Proofs.Json.Text

/-! # The two forms of a document

The form without anything between the parts and the form with one entry to a line
differ in their blanks alone. A layout says where blanks stand; `Json.Value.laid` is
a document in a layout, and both forms are documents in a layout of their own
(`Json.Value.compact_eq_laid`, `Json.Value.indented_eq_laid`).
-/

namespace BpfDepot.Json

/-- Characters that are all blank between the parts of a document. -/
def Blanks (cs : List Char) : Prop := ∀ b ∈ bytesOf cs, Reader.isBlank b = true

theorem blanks_nil : Blanks [] := fun _ member => nomatch member

/-- Where the blanks of a document stand. -/
structure Layout where
  /-- What stands before an item or an entry, and before the bracket after them. -/
  gap : Nat → List Char
  /-- What stands between a colon and a value. -/
  space : List Char
  /-- Nothing else stands between the parts. -/
  blanks_gap : ∀ level, Blanks (gap level)
  /-- Nothing else stands behind a colon. -/
  blanks_space : Blanks space

namespace Layout

/-- Nothing between the parts. -/
def tight : Layout where
  gap _ := []
  space := []
  blanks_gap _ := blanks_nil
  blanks_space := blanks_nil

/-- The beginning of a line is blank. -/
theorem blanks_newLine (level : Nat) : Blanks (newLine level) := by
  have spaces (count : Nat) : Blanks (List.replicate count ' ') := by
    induction count with
    | zero => exact blanks_nil
    | succ count ih =>
        intro b member
        rw [List.replicate_succ, bytesOf_cons_of_lt (by decide)] at member
        rcases List.mem_cons.mp member with rfl | further
        · rfl
        · exact ih b further
  intro b member
  rw [newLine, bytesOf_cons_of_lt (by decide)] at member
  rcases List.mem_cons.mp member with rfl | further
  · rfl
  · exact spaces _ b further

/-- One entry to a line. -/
def lines : Layout where
  gap := newLine
  space := [' ']
  blanks_gap := blanks_newLine
  blanks_space _ member := by
    obtain rfl := List.mem_singleton.mp member
    rfl

end Layout

/-- What stands between an item or entry and the one before it, if there is one. -/
def comma (first : Bool) : List Char := if first then [] else [',']

mutual

/-- A value inside the given number of levels, in a layout. -/
def Value.laid (layout : Layout) (level : Nat) : Value → List Char
  | .list [] => ['[', ']']
  | .list items =>
    '[' :: (laidItems layout (level + 1) true items ++ (layout.gap level ++ [']']))
  | .object [] => ['\x7b', '\x7d']
  | .object entries =>
    '\x7b' :: (laidEntries layout (level + 1) true entries ++ (layout.gap level ++ ['\x7d']))
  | .null => Value.null.compact
  | .bool b => (Value.bool b).compact
  | .number n => (Value.number n).compact
  | .text s => quote s

/-- Items of a list in a layout, the first ones of the list or the ones after others. -/
def laidItems (layout : Layout) (level : Nat) (first : Bool) : List Value → List Char
  | [] => []
  | item :: rest =>
    comma first ++ (layout.gap level ++
      (item.laid layout level ++ laidItems layout level false rest))

/-- Entries of an object in a layout, the first ones or the ones after others. -/
def laidEntries (layout : Layout) (level : Nat) (first : Bool) : List (String × Value) → List Char
  | [] => []
  | (key, value) :: rest =>
    comma first ++ (layout.gap level ++
      (quote key ++ ':' :: (layout.space ++
        (value.laid layout level ++ laidEntries layout level false rest))))

end

mutual

/-- **The form without blanks.** -/
theorem Value.compact_eq_laid (level : Nat) : ∀ v : Value, v.compact = v.laid .tight level
  | .null => by rw [Value.laid]
  | .bool b => by rw [Value.laid]
  | .number n => by rw [Value.laid]
  | .text s => by rw [Value.laid, Value.compact]
  | .list [] => by
      rw [Value.compact, compactItems, Value.laid]
      rfl
  | .list (item :: rest) => by
      rw [Value.compact, compactItems_eq_laid (level + 1) (item :: rest)]
      simp [Value.laid, Layout.tight]
  | .object [] => by
      rw [Value.compact, compactEntries, Value.laid]
      rfl
  | .object (entry :: rest) => by
      rw [Value.compact, compactEntries_eq_laid (level + 1) (entry :: rest)]
      simp [Value.laid, Layout.tight]

theorem compactItems_eq_laid (level : Nat) :
    ∀ items, compactItems items = laidItems .tight level true items
  | [] => by rw [compactItems, laidItems]
  | [item] => by simp [compactItems, laidItems, item.compact_eq_laid level, comma, Layout.tight]
  | item :: next :: rest => by
      rw [compactItems, item.compact_eq_laid level, compactItems_eq_laid level (next :: rest)]
      · simp [laidItems, comma, Layout.tight]
      · simp

theorem compactEntries_eq_laid (level : Nat) :
    ∀ entries, compactEntries entries = laidEntries .tight level true entries
  | [] => by rw [compactEntries, laidEntries]
  | [(key, value)] => by
      simp [compactEntries, laidEntries, value.compact_eq_laid level, comma, Layout.tight]
  | (key, value) :: next :: rest => by
      rw [compactEntries, value.compact_eq_laid level, compactEntries_eq_laid level (next :: rest)]
      · simp [laidEntries, comma, Layout.tight]
      · simp

end

mutual

/-- **The form with one entry to a line.** -/
theorem Value.indented_eq_laid (level : Nat) : ∀ v : Value, v.indented level = v.laid .lines level
  | .null => by rw [Value.laid, Value.indented]
  | .bool b => by rw [Value.laid, Value.indented]
  | .number n => by rw [Value.laid, Value.indented]
  | .text s => by rw [Value.laid, Value.indented, Value.compact]
  | .list [] => by rw [Value.indented, Value.laid]
  | .list (item :: rest) => by
      rw [Value.indented, indentedItems_eq_laid (level + 1) (item :: rest)]
      · simp [Value.laid, Layout.lines]
      · simp
  | .object [] => by rw [Value.indented, Value.laid]
  | .object (entry :: rest) => by
      rw [Value.indented, indentedEntries_eq_laid (level + 1) (entry :: rest)]
      · simp [Value.laid, Layout.lines]
      · simp

theorem indentedItems_eq_laid (level : Nat) :
    ∀ items, indentedItems level items = laidItems .lines level true items
  | [] => by rw [indentedItems, laidItems]
  | [item] => by simp [indentedItems, laidItems, item.indented_eq_laid level, comma, Layout.lines]
  | item :: next :: rest => by
      rw [indentedItems, item.indented_eq_laid level, indentedItems_eq_laid level (next :: rest)]
      · simp [laidItems, comma, Layout.lines]
      · simp

theorem indentedEntries_eq_laid (level : Nat) :
    ∀ entries, indentedEntries level entries = laidEntries .lines level true entries
  | [] => by rw [indentedEntries, laidEntries]
  | [(key, value)] => by
      simp [indentedEntries, laidEntries, value.indented_eq_laid level, comma, Layout.lines]
  | (key, value) :: next :: rest => by
      rw [indentedEntries, value.indented_eq_laid level,
        indentedEntries_eq_laid level (next :: rest)]
      · simp [laidEntries, comma, Layout.lines]
      · simp

end

end BpfDepot.Json
