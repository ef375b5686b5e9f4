import BpfDepot.Proofs.FileTree.Changes

/-! # What calls change outside of a place

A change is confined to a place if outside of it nothing is made and nothing is altered, and
only what may be lost is gone (`FileTree.Confined`). Calls whose paths lead to the place or below
it are confined to it, whatever the tree, and also when they are broken off
(`FileTree.Confined.call`, `FileTree.Confined.brokenOff`). Removing a directory elsewhere is
confined if what is below the directory may be lost, and making directories is if those on
the way were there before.
-/

namespace BpfDepot.FileTree

variable {before t : FileTree} {home here working place : Location} {lost : Location → Prop}

/-- A way along parts leads to their goal. -/
theorem goal_of_follow {parts : List String} (followed : t.follow here parts = .ok place) :
    place = goal here parts := by
  induction parts generalizing here with
  | nil => exact (Except.ok.inj followed).symm
  | cons part rest ih =>
      rw [follow] at followed
      split at followed
      · cases followed
      · cases followed
      · exact ih followed

/-- Where a path leads depends on the tree only in that it may lead nowhere. -/
theorem spot_of_locate {path : String} (located : t.locate working path = .ok place) :
    place = spot working path := by
  unfold locate at located
  split at located
  · cases located
  · rw [goal_of_follow located, ← goal_filter]
    rfl

theorem mem_route_take {parts : List String} {steps : Nat} {p : Location}
    (member : p ∈ route here (parts.take steps)) : p ∈ route here parts := by
  induction parts generalizing here steps with
  | nil => rwa [List.take_nil] at member
  | cons part rest ih =>
      cases steps with
      | zero =>
          rw [List.take_zero, route, List.mem_singleton] at member
          exact member ▸ mem_route_self _ _
      | succ steps =>
          rw [List.take_succ_cons, route, List.mem_cons] at member
          rw [route, List.mem_cons]
          exact member.imp_right ih

/-! ## Confined changes -/

/-- Outside of a place a tree is as it was before, but for what may be lost and is gone. -/
def Confined (home : Location) (lost : Location → Prop) (before t : FileTree) : Prop :=
  ∀ p, ¬ home <+: p → t.node? p = before.node? p ∨ t.node? p = none ∧ lost p

namespace Confined

theorem refl (home : Location) (lost : Location → Prop) (t : FileTree) : Confined home lost t t :=
  fun _ _ => Or.inl rfl

/-- What changes nothing outside of the place leaves a change confined. -/
theorem of_eq {changed : FileTree} (confined : Confined home lost before t)
    (same : ∀ p, ¬ home <+: p → changed.node? p = t.node? p) :
    Confined home lost before changed := by
  intro p outside
  rw [same p outside]
  exact confined p outside

theorem without {places : List Location} (confined : Confined home lost before t)
    (aside : ∀ p ∈ places, home <+: p ∨ lost p) :
    Confined home lost before (t.without places) := by
  intro p outside
  by_cases root : p = []
  · subst root
    exact Or.inl rfl
  by_cases member : p ∈ places
  · exact Or.inr ⟨node?_without_of_mem root member, (aside p member).resolve_left outside⟩
  · rw [node?_without_of_not_mem member]
    exact confined p outside

/-- Directories are made outside of the place only where they were before. -/
theorem makeTree (confined : Confined home lost before t) {back : List String}
    (way : ∀ p ∈ route here back.reverse, home <+: p ∨ before.node? p = some .directory) :
    Confined home lost before (t.makeTree here back).1 := by
  refine makeTree_induction (motive := Confined home lost before) back ?_ t confined
  intro made place confined absent member p outside
  by_cases here : p = place
  · subst here
    have rooted : p ≠ [] := by
      rintro rfl
      cases absent
    rw [node?_put_self rooted, (way p member).resolve_left outside]
    exact Or.inl rfl
  · rw [node?_put_of_ne here]
    exact confined p outside

end Confined

/-- The paths of a call lead to a place or below it. A directory that is removed may be elsewhere
if what is below it may be lost, and directories that are made may be where they were before. -/
inductive Stays (home : Location) (lost : Location → Prop) (before : FileTree)
    (working : Location) : {α : Type} → FileCall α → Prop where
  | read (path : String) : Stays home lost before working (.read path)
  | write {path : String} (bytes : ByteArray) (inside : home <+: spot working path) :
      Stays home lost before working (.write path bytes)
  | createTree {path : String} (way : ∀ p ∈ route (start working path) (Path.names path),
      home <+: p ∨ before.node? p = some .directory) :
      Stays home lost before working (.createTree path)
  | removeTree {path : String} (clears : ∀ p, spot working path <+: p → home <+: p ∨ lost p) :
      Stays home lost before working (.removeTree path)
  | rename {source target : String} (leaving : home <+: spot working source)
      (entering : home <+: spot working target) :
      Stays home lost before working (.rename source target)

/-- A path that leads to a place or below it is apart from what is outside. -/
theorem apart_of_isPrefix {path : String} (inside : home <+: spot working path) (t : FileTree) :
    Apart (fun p => ¬ home <+: p) t working [path] := by
  intro one member place located p below outside
  obtain rfl := List.mem_singleton.mp member
  obtain rfl := spot_of_locate located
  exact outside (inside.trans below)

/-- What is removed with a directory is where its path leads or below. -/
theorem of_mem_removalOrder {path : String} {places : List Location} {P : Location → Prop}
    (holds : ∀ p, spot working path <+: p → P p)
    (order : t.removalOrder working path = .ok places) {p : Location} (member : p ∈ places) :
    P p := by
  obtain ⟨place, located, below⟩ := below_of_mem_removalOrder order member
  obtain rfl := spot_of_locate located
  exact holds p below

variable {α : Type} {request : FileCall α}

/-- **Calls** whose paths stay at a place are confined to it. -/
theorem Confined.call (confined : Confined home lost before t)
    (stays : Stays home lost before working request) :
    Confined home lost before (t.call working request).1 := by
  cases stays with
  | read path => exact confined
  | write bytes inside =>
      exact confined.of_eq fun p outside => node?_write bytes (apart_of_isPrefix inside t) outside
  | createTree way =>
      refine confined.makeTree ?_
      rwa [List.reverse_reverse]
  | removeTree clears =>
      rw [FileTree.call, removeTree]
      cases order : t.removalOrder working _ with
      | error fault => exact confined
      | ok places =>
          exact confined.without fun p member => of_mem_removalOrder clears order member
  | rename leaving entering =>
      have apart := (apart_of_isPrefix leaving t).pair (apart_of_isPrefix entering t)
      exact confined.of_eq fun p outside => node?_rename apart outside

/-- **Calls that are broken off** are as well. -/
theorem Confined.brokenOff (confined : Confined home lost before t) (steps : Nat)
    (stays : Stays home lost before working request) :
    Confined home lost before (t.brokenOff working steps request) := by
  cases stays with
  | read path => exact confined
  | write bytes inside =>
      cases steps with
      | zero => exact confined
      | succ steps =>
          exact confined.of_eq fun p outside => node?_write _ (apart_of_isPrefix inside t) outside
  | createTree way =>
      refine confined.makeTree ?_
      rw [List.reverse_reverse]
      exact fun p member => way p (mem_route_take member)
  | removeTree clears =>
      rw [FileTree.brokenOff]
      cases order : t.removalOrder working _ with
      | error fault => exact confined
      | ok places =>
          exact confined.without fun p member =>
            of_mem_removalOrder clears order (List.mem_of_mem_take member)
  | rename leaving entering => exact confined

end BpfDepot.FileTree
