/-! # Dictionaries

A dictionary binds each of its keys to one value. Its entries have an order, that
in which the keys came in; inserting a key again keeps its place and replaces its
value. Two dictionaries with the same bindings may differ in that order, so what
must not depend on it is stated through `get?`. -/

namespace BpfDepot

/-- Bindings of strings to values, one for each key. -/
structure Dictionary (α : Type) where
  /-- The keys with their values, in the order of the keys' first insertion. -/
  entries : List (String × α)
  /-- No key is bound twice. -/
  nodup_keys : (entries.map Prod.fst).Nodup
  deriving DecidableEq

namespace Dictionary

variable {α : Type}

/-- The entries after a key is bound to a value. -/
def bind (key : String) (value : α) : List (String × α) → List (String × α)
  | [] => [(key, value)]
  | entry :: rest =>
    if entry.1 = key then (key, value) :: rest else entry :: bind key value rest

theorem map_fst_bind (key : String) (value : α) (entries : List (String × α)) :
    (bind key value entries).map Prod.fst =
      if key ∈ entries.map Prod.fst then entries.map Prod.fst
      else entries.map Prod.fst ++ [key] := by
  induction entries with
  | nil => simp [bind]
  | cons entry rest ih =>
    by_cases same : entry.1 = key
    · simp [bind, same]
    · simp only [bind, same, if_false, List.map_cons, ih, List.mem_cons, Ne.symm same, false_or]
      split <;> simp

theorem nodup_bind (key : String) (value : α) {entries : List (String × α)}
    (nodup : (entries.map Prod.fst).Nodup) : ((bind key value entries).map Prod.fst).Nodup := by
  rw [map_fst_bind]
  split
  · exact nodup
  · next absent =>
    rw [List.nodup_append]
    refine ⟨nodup, by simp, ?_⟩
    intro a here b there same
    simp only [List.mem_singleton] at there
    exact absent (there ▸ same ▸ here)

/-- The dictionary without bindings. -/
def empty : Dictionary α := ⟨[], by simp⟩

instance : EmptyCollection (Dictionary α) := ⟨empty⟩

instance : Inhabited (Dictionary α) := ⟨empty⟩

/-- Binds a key to a value, whatever it was bound to before. -/
def insert (d : Dictionary α) (key : String) (value : α) : Dictionary α :=
  ⟨bind key value d.entries, nodup_bind key value d.nodup_keys⟩

/-- Removes the binding of a key, if it has one. -/
def erase (d : Dictionary α) (key : String) : Dictionary α where
  entries := d.entries.filter fun entry => entry.1 ≠ key
  nodup_keys := d.nodup_keys.sublist ((List.filter_sublist).map _)

/-- The value that a key is bound to. -/
def get? (d : Dictionary α) (key : String) : Option α :=
  (d.entries.find? fun entry => entry.1 = key).map Prod.snd

/-- Whether a key is bound. -/
def contains (d : Dictionary α) (key : String) : Bool := (d.get? key).isSome

/-- The keys, in the order of their first insertion. -/
def keys (d : Dictionary α) : List String := d.entries.map Prod.fst

/-- The values, in the order of their keys. -/
def values (d : Dictionary α) : List α := d.entries.map Prod.snd

/-- The number of bindings. -/
def size (d : Dictionary α) : Nat := d.entries.length

/-- Binds the keys of a list one after the other, so that the last value of a key
stays. -/
def ofList (entries : List (String × α)) : Dictionary α :=
  entries.foldl (fun d entry => d.insert entry.1 entry.2) empty

@[simp] theorem get?_empty (key : String) : (empty : Dictionary α).get? key = none := rfl

@[simp] theorem get?_insert_self (d : Dictionary α) (key : String) (value : α) :
    (d.insert key value).get? key = some value := by
  obtain ⟨entries, nodup⟩ := d
  simp only [insert, get?]
  clear nodup
  induction entries with
  | nil => simp [bind]
  | cons entry rest ih => by_cases same : entry.1 = key <;> simp_all [bind]

theorem get?_insert_of_ne (d : Dictionary α) {key other : String} (value : α)
    (ne : other ≠ key) : (d.insert key value).get? other = d.get? other := by
  obtain ⟨entries, nodup⟩ := d
  simp only [insert, get?]
  clear nodup
  induction entries with
  | nil => simp [bind, Ne.symm ne]
  | cons entry rest ih =>
    by_cases same : entry.1 = key
    · have : entry.1 ≠ other := fun h => ne (h.symm.trans same)
      simp [bind, same, Ne.symm ne]
    · by_cases here : entry.1 = other <;> simp_all [bind]

@[simp] theorem get?_erase_self (d : Dictionary α) (key : String) :
    (d.erase key).get? key = none := by
  simp [erase, get?, List.find?_filter]

theorem get?_erase_of_ne (d : Dictionary α) {key other : String} (ne : other ≠ key) :
    (d.erase key).get? other = d.get? other := by
  obtain ⟨entries, nodup⟩ := d
  simp only [erase, get?]
  clear nodup
  induction entries with
  | nil => rfl
  | cons entry rest ih =>
    by_cases same : entry.1 = key
    · have : entry.1 ≠ other := fun h => ne (h.symm.trans same)
      simp_all
    · by_cases here : entry.1 = other <;> simp_all

end Dictionary

end BpfDepot
