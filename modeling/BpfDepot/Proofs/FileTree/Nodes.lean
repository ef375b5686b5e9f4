import BpfDepot.FileTree

/-! # What a change leaves where

A tree is seen through `FileTree.node?`. Putting a node changes one place, removing
places empties them, and moving takes what is at a place and below it to another place
(`FileTree.node?_move`); every other place keeps its node.
-/

namespace BpfDepot.FileTree

variable {t : FileTree} {p place : Location}

theorem node?_root (t : FileTree) : t.node? [] = some .directory := rfl

theorem node?_eq_none_iff (inside : p ≠ []) :
    t.node? p = none ↔ ∀ entry ∈ t.nodes, entry.1 ≠ p := by
  unfold node?
  rw [if_neg inside, Option.map_eq_none_iff, List.find?_eq_none]
  simp

theorem node?_put_self (inside : place ≠ []) (node : Node) :
    (t.put place node).node? place = some node := by
  unfold node? put
  rw [if_neg inside]
  induction t.nodes with
  | nil => simp [putNode]
  | cons entry rest ih =>
      rw [putNode]
      split
      · simp
      · next other =>
        rw [List.find?_cons_of_neg (by simpa using other)]
        exact ih

theorem node?_put_of_ne (other : p ≠ place) (node : Node) :
    (t.put place node).node? p = t.node? p := by
  unfold node? put
  split
  · rfl
  · induction t.nodes with
    | nil => simp [putNode, Ne.symm other]
    | cons entry rest ih =>
        rw [putNode]
        split
        · next same =>
          rw [List.find?_cons_of_neg (by simp [Ne.symm other]),
            List.find?_cons_of_neg (by simp [same, Ne.symm other])]
        · by_cases here : entry.1 = p
          · rw [List.find?_cons_of_pos (by simp [here]), List.find?_cons_of_pos (by simp [here])]
          · rw [List.find?_cons_of_neg (by simp [here]), List.find?_cons_of_neg (by simp [here])]
            exact ih

theorem node?_put (inside : place ≠ []) (node : Node) (p : Location) :
    (t.put place node).node? p = if p = place then some node else t.node? p := by
  split
  · next same => rw [same, node?_put_self inside]
  · next other => rw [node?_put_of_ne other]

theorem node?_without_of_mem {places : List Location} (inside : p ≠ []) (gone : p ∈ places) :
    (t.without places).node? p = none := by
  rw [node?_eq_none_iff inside]
  intro entry member same
  obtain ⟨-, kept⟩ := List.mem_filter.mp member
  simp [same, gone] at kept

theorem node?_without_of_not_mem {places : List Location} (kept : p ∉ places) :
    (t.without places).node? p = t.node? p := by
  unfold node? without
  split
  · rfl
  · rw [List.find?_filter]
    congr 2
    funext entry
    by_cases here : entry.1 = p
    · simp [here, kept]
    · simp [here]

theorem mem_under {entry : Location × Node} :
    entry ∈ t.under place ↔ entry ∈ t.nodes ∧ place <+: entry.1 := by
  simp [under]

/-- Below a place nothing stands, whether or not something stands at it. -/
def Bare (t : FileTree) (place : Location) : Prop := ∀ p, place <+: p → p ≠ place → t.node? p = none

/-- What stands somewhere stands in a directory, as in every file system. -/
def Grounded (t : FileTree) : Prop := ∀ place, t.node? place ≠ some .directory → t.Bare place

/-- Where nothing stands, nothing stands below. -/
theorem Grounded.node?_append (grounded : t.Grounded) (absent : t.node? place = none)
    (rest : Location) : t.node? (place ++ rest) = none := by
  by_cases here : rest = []
  · rw [here, List.append_nil, absent]
  · refine grounded place ?_ _ (List.prefix_append _ _) (by simpa using here)
    rw [absent]
    exact nofun

/-- A tree without nodes has nothing below any place. -/
theorem bare_of_empty (place : Location) : ({} : FileTree).Bare place := by
  intro p below other
  refine (node?_eq_none_iff ?_).mpr nofun
  rintro rfl
  exact other (List.prefix_nil.mp below).symm

theorem node?_ne_none_of_mem {entry : Location × Node} (member : entry ∈ t.nodes) :
    t.node? entry.1 ≠ none := by
  by_cases root : entry.1 = []
  · rw [root, node?_root]
    exact Option.some_ne_none _
  · rw [Ne, node?_eq_none_iff root]
    exact fun absent => absent entry member rfl

theorem mem_of_node?_ne_none (inside : p ≠ []) (present : t.node? p ≠ none) :
    ∃ entry ∈ t.nodes, entry.1 = p := by
  apply Classical.byContradiction
  intro none
  exact present ((node?_eq_none_iff inside).mpr fun entry member same =>
    none ⟨entry, member, same⟩)

/-- A tree is grounded if every node stands in a directory. -/
theorem grounded_of_parent
    (parent : ∀ entry ∈ t.nodes, t.node? entry.1.dropLast = some .directory) : t.Grounded := by
  have inside (place : Location) (other : t.node? place ≠ some .directory) (name : String) :
      t.node? (place ++ [name]) = none := by
    apply Classical.byContradiction
    intro present
    obtain ⟨entry, member, same⟩ := mem_of_node?_ne_none (by simp) present
    have around := parent entry member
    rw [same, List.dropLast_concat] at around
    exact other around
  rintro place other _ ⟨rest, rfl⟩ further
  induction rest generalizing place with
  | nil => exact absurd (List.append_nil place) further
  | cons name rest ih =>
      have absent := inside place other name
      rw [List.append_cons]
      by_cases here : rest = []
      · rw [here, List.append_nil, absent]
      · exact ih _ (by rw [absent]; exact nofun) (by simpa using here)

/-- Of two searches that agree on all members of a list the results agree. -/
theorem find?_eq_of_agree {α : Type} {test other : α → Bool} {list : List α}
    (agree : ∀ a ∈ list, test a = other a) : list.find? test = list.find? other := by
  induction list with
  | nil => rfl
  | cons a list ih =>
      have rest := ih fun b member => agree b (List.mem_cons_of_mem _ member)
      rw [List.find?_cons, List.find?_cons, agree a List.mem_cons_self, rest]

/-- What stands at a place after a move is the node of the entry that was moved there. -/
theorem node?_move_eq_find? {source target : Location} (present : p ≠ []) :
    (t.move source target).node? p =
      ((t.without [target]).nodes.find? fun entry =>
        if source <+: entry.1 then target ++ entry.1.drop source.length = p else entry.1 = p).map
          Prod.snd := by
  unfold node? move
  rw [if_neg present]
  simp only [List.find?_map, Option.map_map]
  have nodes : (Prod.snd ∘ fun entry : Location × Node =>
      if source.isPrefixOf entry.1 then (target ++ entry.1.drop source.length, entry.2)
      else entry) = Prod.snd := by
    funext entry
    simp only [Function.comp]
    split <;> rfl
  rw [nodes]
  congr 2
  funext entry
  simp only [Function.comp, List.isPrefixOf_iff_prefix]
  split <;> rfl

theorem find?_without {places : List Location} (present : p ≠ []) (kept : p ∉ places) :
    ((t.without places).nodes.find? fun entry => entry.1 = p).map Prod.snd = t.node? p := by
  rw [← node?_without_of_not_mem kept, node?, if_neg present]

/-- A move leaves what is outside of both places as it is. -/
theorem node?_move_of_outside {source target : Location} (apart : ¬ source <+: p)
    (aside : ¬ target <+: p) : (t.move source target).node? p = t.node? p := by
  by_cases root : p = []
  · subst root
    rw [node?_root, node?_root]
  have kept : p ∉ [target] := fun here => aside (List.mem_singleton.mp here ▸ List.prefix_rfl)
  rw [node?_move_eq_find? root, ← find?_without root kept]
  congr 1
  apply find?_eq_of_agree
  intro entry _
  split
  · next moved =>
    rw [decide_eq_decide]
    constructor
    · exact fun here => absurd (here ▸ List.prefix_append _ _) aside
    · exact fun here => absurd (here ▸ moved) apart
  · rfl

/-- **Moving.** What stood at a place and below it stands at the target and below it,
if nothing stood below the target. -/
theorem node?_move {source target : Location} (inside : target ≠ []) (bare : t.Bare target)
    (apart : ¬ source <+: target) (p : Location) :
    (t.move source target).node? p =
      if target <+: p then t.node? (source ++ p.drop target.length)
      else if source <+: p then none
      else t.node? p := by
  have rooted : source ≠ [] := fun empty => apart (empty ▸ List.nil_prefix)
  by_cases root : p = []
  · subst root
    rw [if_neg (by simpa using inside), if_neg (by simpa using rooted), node?_root, node?_root]
  split
  · next below =>
    rw [node?_move_eq_find? root]
    obtain ⟨q, rfl⟩ := below
    have kept : source ++ q ∉ [target] := fun here =>
      apart (List.mem_singleton.mp here ▸ List.prefix_append _ _)
    rw [List.drop_left, ← find?_without (by simp [rooted]) kept]
    congr 1
    apply find?_eq_of_agree
    intro entry member
    obtain ⟨member, kept⟩ := List.mem_filter.mp member
    split
    · next moved =>
      obtain ⟨rest, whole⟩ := moved
      rw [decide_eq_decide, ← whole, List.drop_left, List.append_cancel_left_eq,
        List.append_cancel_left_eq]
    · next fixed =>
      rw [decide_eq_decide]
      constructor
      · intro here
        refine absurd (bare entry.1 (here ▸ List.prefix_append _ _) ?_)
          (node?_ne_none_of_mem member)
        intro same
        simp [same] at kept
      · intro here
        exact absurd (here ▸ List.prefix_append _ _) fixed
  · next outside =>
    split
    · next below =>
      rw [node?_move_eq_find? root, Option.map_eq_none_iff, List.find?_eq_none]
      intro entry _
      split
      · exact fun here => outside (of_decide_eq_true here ▸ List.prefix_append _ _)
      · next fixed => exact fun here => fixed (of_decide_eq_true here ▸ below)
    · next fixed => exact node?_move_of_outside fixed outside

end BpfDepot.FileTree
