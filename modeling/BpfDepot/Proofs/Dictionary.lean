import BpfDepot.Dictionary

/-! # What dictionaries bind

Dictionaries are seen through `Dictionary.get?`. Those that it does not tell apart have the
same entries in one order or another (`Dictionary.get?_eq_iff`). What a dictionary holds is
what its keys are bound to (`Dictionary.mem_values_iff`), and binding a key to the value that it
is bound to changes nothing (`Dictionary.insert_of_get?`). Binding all its entries one after
the other makes the dictionary again (`Dictionary.ofList_entries`).
-/

namespace BpfDepot.Dictionary

variable {α : Type} {d : Dictionary α} {key : String} {value : α}

theorem contains_insert_self (d : Dictionary α) (key : String) (value : α) :
    (d.insert key value).contains key = true := by
  rw [contains, get?_insert_self]
  rfl

theorem contains_insert {other : String} (bound : d.contains other = true) (key : String)
    (value : α) : (d.insert key value).contains other = true := by
  by_cases same : other = key
  · rw [same, contains_insert_self]
  · rw [contains, get?_insert_of_ne d value same]
    exact bound

/-- The value of a key is that of the only entry with the key. -/
theorem get?_eq_some_iff : d.get? key = some value ↔ (key, value) ∈ d.entries := by
  obtain ⟨entries, nodup⟩ := d
  simp only [get?]
  induction entries with
  | nil => simp
  | cons entry rest ih =>
      rw [List.map_cons, List.nodup_cons] at nodup
      rw [List.find?_cons, List.mem_cons]
      by_cases same : entry.1 = key
      · have absent : (key, value) ∉ rest := by
          intro member
          exact nodup.1 (same ▸ List.mem_map_of_mem (f := Prod.fst) member)
        simp only [same, decide_true, Option.map_some, Option.some.injEq, absent, or_false]
        exact ⟨fun equal => Prod.ext same.symm equal.symm,
          fun equal => congrArg Prod.snd equal.symm⟩
      · have other : (key, value) ≠ entry := fun equal => same (congrArg Prod.fst equal.symm)
        simp only [same, decide_false, other, false_or]
        exact ih nodup.2

/-- **Values.** A dictionary holds what its keys are bound to. -/
theorem mem_values_iff : value ∈ d.values ↔ ∃ key, d.get? key = some value := by
  simp only [get?_eq_some_iff, values, List.mem_map, Prod.exists]
  constructor
  · rintro ⟨key, _, member, rfl⟩
    exact ⟨key, member⟩
  · rintro ⟨key, member⟩
    exact ⟨key, value, member, rfl⟩

/-- **Keys.** The keys of a dictionary are those that are bound. -/
theorem mem_keys_iff : key ∈ d.keys ↔ ∃ value, d.get? key = some value := by
  simp only [get?_eq_some_iff, keys, List.mem_map, Prod.exists]
  constructor
  · rintro ⟨_, value, member, rfl⟩
    exact ⟨value, member⟩
  · rintro ⟨value, member⟩
    exact ⟨key, value, member, rfl⟩

/-- Dictionaries with the same bindings have the same entries, in one order or another. -/
theorem get?_eq_iff {e : Dictionary α} : d.get? = e.get? ↔ d.entries.Perm e.entries := by
  have distinct (d : Dictionary α) : d.entries.Nodup :=
    List.Pairwise.of_map Prod.fst (fun _ _ apart equal => apart (equal ▸ rfl)) d.nodup_keys
  rw [List.perm_ext_iff_of_nodup (distinct d) (distinct e)]
  constructor
  · rintro same ⟨key, value⟩
    rw [← get?_eq_some_iff, ← get?_eq_some_iff, same]
  · intro same
    funext key
    refine Option.ext fun value => ?_
    rw [get?_eq_some_iff, get?_eq_some_iff, same]

/-- Dictionaries with the same bindings hold the same values, in one order or another. -/
theorem perm_values {e : Dictionary α} (same : ∀ key, d.get? key = e.get? key) :
    d.values.Perm e.values := (get?_eq_iff.mp (funext same)).map Prod.snd

/-- Binding a key to what it is bound to changes nothing. -/
theorem insert_of_get? (bound : d.get? key = some value) : d.insert key value = d := by
  have search (entries : List (String × α))
      (bound : (entries.find? fun entry => entry.1 = key).map Prod.snd = some value) :
      bind key value entries = entries := by
    induction entries with
    | nil => cases bound
    | cons entry rest ih =>
        rw [List.find?_cons] at bound
        by_cases here : entry.1 = key
        · simp only [here, decide_true, Option.map_some, Option.some.injEq] at bound
          rw [bind, if_pos here, ← here, ← bound]
        · simp only [here, decide_false] at bound
          rw [bind, if_neg here, ih bound]
  obtain ⟨entries, nodup⟩ := d
  simp only [insert, search entries bound]

/-- A key that comes in anew stands behind the others. -/
theorem bind_of_not_mem {entries : List (String × α)} (absent : key ∉ entries.map Prod.fst) :
    bind key value entries = entries ++ [(key, value)] := by
  induction entries with
  | nil => rfl
  | cons entry rest ih =>
      rw [List.map_cons, List.mem_cons, not_or] at absent
      rw [bind, if_neg (Ne.symm absent.1), ih absent.2, List.cons_append]

/-- Entries with new keys come to stand behind those that are there, in their order. -/
theorem entries_foldl_insert {more : List (String × α)}
    (distinct : ((d.entries ++ more).map Prod.fst).Nodup) :
    (more.foldl (fun d entry => d.insert entry.1 entry.2) d).entries = d.entries ++ more := by
  induction more generalizing d with
  | nil => rw [List.foldl_nil, List.append_nil]
  | cons entry rest ih =>
      have absent : entry.1 ∉ d.entries.map Prod.fst := by
        rw [List.map_append, List.map_cons] at distinct
        exact fun member => (List.nodup_append.mp distinct).2.2 _ member _ List.mem_cons_self rfl
      have behind : (d.insert entry.1 entry.2).entries = d.entries ++ [entry] :=
        bind_of_not_mem absent
      rw [List.foldl_cons, ih (by rwa [behind, List.append_assoc]), behind, List.append_assoc]
      rfl

/-- A dictionary is made of its entries. -/
theorem ofList_entries (d : Dictionary α) : ofList d.entries = d := by
  have same : (ofList d.entries).entries = (empty : Dictionary α).entries ++ d.entries :=
    entries_foldl_insert d.nodup_keys
  cases d
  rw [mk.injEq]
  exact same

/-- Among the last entries that are bound one after the other are those of a list. -/
theorem get?_foldl_insert {entries : List (String × α)}
    (found : (entries.foldl (fun d entry => d.insert entry.1 entry.2) d).get? key = some value) :
    (key, value) ∈ entries ∨ d.get? key = some value ∧ ∀ other, (key, other) ∉ entries := by
  induction entries generalizing d with
  | nil => exact Or.inr ⟨found, fun _ => List.not_mem_nil⟩
  | cons entry rest ih =>
      rcases ih found with member | ⟨before, absent⟩
      · exact Or.inl (List.mem_cons_of_mem _ member)
      · by_cases same : key = entry.1
        · subst same
          rw [get?_insert_self] at before
          obtain rfl := Option.some.inj before
          exact Or.inl List.mem_cons_self
        · rw [get?_insert_of_ne d entry.2 same] at before
          refine Or.inr ⟨before, fun other member => ?_⟩
          rcases List.mem_cons.mp member with rfl | member
          · exact same rfl
          · exact absent other member

/-- What is bound in the dictionary of a list is in the list. -/
theorem mem_of_get?_ofList {entries : List (String × α)}
    (found : (ofList entries).get? key = some value) : (key, value) ∈ entries :=
  (get?_foldl_insert found).resolve_right fun ⟨before, _⟩ => nomatch before

/-- A key that a list has with only one value is bound to it in the dictionary of the list. -/
theorem get?_ofList_of_mem {entries : List (String × α)} (member : (key, value) ∈ entries)
    (only : ∀ other, (key, other) ∈ entries → other = value) :
    (ofList entries).get? key = some value := by
  cases found : (ofList entries).get? key with
  | some other => rw [only other (mem_of_get?_ofList found)]
  | none =>
      -- a key of the list is bound by its entry, and stays bound
      have bound (d : Dictionary α) : ∀ entries : List (String × α),
          ((key, value) ∈ entries ∨ d.contains key = true) →
          (entries.foldl (fun d entry => d.insert entry.1 entry.2) d).contains key = true := by
        intro entries
        induction entries generalizing d with
        | nil => exact fun either => either.resolve_left List.not_mem_nil
        | cons entry rest ih =>
            intro either
            refine ih _ ?_
            rcases either with here | before
            · rcases List.mem_cons.mp here with rfl | later
              · exact Or.inr (contains_insert_self _ _ _)
              · exact Or.inl later
            · exact Or.inr (contains_insert before _ _)
      have there := bound empty entries (Or.inl member)
      unfold contains at there
      rw [show (entries.foldl _ empty).get? key = none from found] at there
      cases there

end BpfDepot.Dictionary
