import BpfDepot.Proofs.FileTree.Calls

/-! # What calls leave alone

A call changes a tree only where its paths lead, also when it is broken off
(`FileTree.spares_call`, `FileTree.spares_brokenOff`). Making a tree of directories
changes nothing that is there, and makes directories only where its path leads
(`FileTree.spares_makeTree`, `FileTree.node?_makeTree`).
-/

namespace BpfDepot.FileTree

variable {t changed : FileTree} {safe : Location → Prop} {here working place : Location}

/-- What stands in one tree at the places that are safe stands there in the other. -/
def Spares (safe : Location → Prop) (t changed : FileTree) : Prop :=
  ∀ p, safe p → ∀ node, t.node? p = some node → changed.node? p = some node

namespace Spares

theorem refl (safe : Location → Prop) (t : FileTree) : Spares safe t t := fun _ _ _ found => found

theorem trans {last : FileTree} (first : Spares safe t changed)
    (second : Spares safe changed last) : Spares safe t last :=
  fun p kept node found => second p kept node (first p kept node found)

theorem mono {fewer : Location → Prop} (spares : Spares safe t changed)
    (only : ∀ p, fewer p → safe p) : Spares fewer t changed :=
  fun p kept => spares p (only p kept)

theorem of_eq (same : ∀ p, safe p → changed.node? p = t.node? p) : Spares safe t changed :=
  fun p kept _ found => (same p kept).trans found

theorem put_of_absent (absent : t.node? place = none) (node : Node) :
    Spares safe t (t.put place node) := by
  intro p _ other found
  rw [← found]
  refine node?_put_of_ne ?_ node
  rintro rfl
  rw [absent] at found
  cases found

theorem without {places : List Location} (aside : ∀ p ∈ places, ¬ safe p) :
    Spares safe t (t.without places) :=
  of_eq fun p kept => node?_without_of_not_mem fun gone => aside p gone kept

end Spares

/-! ## Making directories -/

/-- A directory is made where a path leads and nothing stands. -/
theorem makeDirectory_eq_ok {names : List String} {made : FileTree} :
    t.makeDirectory here names = .ok made ↔
      ∃ place, t.follow here names = .ok place ∧ t.node? place = none ∧
        made = t.put place .directory := by
  unfold makeDirectory
  cases followed : t.follow here names with
  | error fault => exact ⟨nofun, nofun⟩
  | ok place =>
      rw [ok_bind]
      cases found : t.node? place with
      | some node =>
          refine ⟨nofun, ?_⟩
          rintro ⟨_, same, absent, -⟩
          obtain rfl := Except.ok.inj same
          rw [found] at absent
          cases absent
      | none =>
          constructor
          · intro done
            exact ⟨place, rfl, found, (Except.ok.inj done).symm⟩
          · rintro ⟨_, same, -, rfl⟩
            obtain rfl := Except.ok.inj same
            rfl

/-- The last directory of a path is made in the tree or after those around it, or making it
fails, or it is there. -/
theorem makeTree_cases (t : FileTree) (here : Location) (last : String) (before : List String) :
    ∃ around, (around = t ∨ around = (t.makeTree here before).1) ∧
      ((∃ made, around.makeDirectory here (before.reverse ++ [last]) = .ok made ∧
          t.makeTree here (last :: before) = (made, .ok ())) ∨
        (∃ fault, t.makeTree here (last :: before) = (around, .error fault)) ∨
        around.isDirectory here (before.reverse ++ [last]) = true ∧
          t.makeTree here (last :: before) = (around, .ok ())) := by
  have last_try (around : FileTree) (fault : FileFault) :
      (∃ other, (around, if around.isDirectory here (before.reverse ++ [last]) = true
          then Except.ok () else .error fault) = (around, .error other)) ∨
        around.isDirectory here (before.reverse ++ [last]) = true ∧
          (around, if around.isDirectory here (before.reverse ++ [last]) = true
            then Except.ok () else .error fault) = (around, .ok ()) := by
    by_cases there : around.isDirectory here (before.reverse ++ [last]) = true
    · exact Or.inr ⟨there, by rw [if_pos there]⟩
    · exact Or.inl ⟨fault, by rw [if_neg there]⟩
  rw [makeTree, List.reverse_cons]
  rcases first : t.makeDirectory here (before.reverse ++ [last]) with fault | made
  · by_cases missing : fault = .notFound
    · subst missing
      refine ⟨_, Or.inr rfl, ?_⟩
      rcases t.makeTree here before with ⟨around, fault | _⟩
      · exact Or.inr (Or.inl ⟨fault, rfl⟩)
      · dsimp only
        rcases second : around.makeDirectory here (before.reverse ++ [last]) with fault | made
        · exact Or.inr (last_try around fault)
        · exact Or.inl ⟨made, rfl, rfl⟩
    · refine ⟨t, Or.inl rfl, Or.inr ?_⟩
      split
      · next same => cases same
      · next same => exact absurd (Except.error.inj same) missing
      · exact last_try t _
  · exact ⟨t, Or.inl rfl, Or.inl ⟨made, first, rfl⟩⟩

/-- What holds of a tree and is kept when a directory is made at a place that one of the
parts of a path leads to holds when the directories of the path have been made. -/
theorem makeTree_induction {motive : FileTree → Prop} (back : List String)
    (made : ∀ t place, motive t → t.node? place = none → place ∈ route here back.reverse →
      motive (t.put place .directory)) :
    ∀ t, motive t → motive (t.makeTree here back).1 := by
  induction back with
  | nil => exact fun t holds => holds
  | cons last before ih =>
      intro t holds
      rw [List.reverse_cons] at made
      obtain ⟨around, either, outcome⟩ := makeTree_cases t here last before
      have so_far : motive around := by
        rcases either with rfl | rfl
        · exact holds
        · exact ih (fun t place holds absent member =>
            made t place holds absent (mem_route_append.mpr (Or.inl member))) t holds
      rcases outcome with ⟨done, now, whole⟩ | ⟨fault, whole⟩ | ⟨-, whole⟩
      all_goals rw [whole]
      · obtain ⟨place, followed, absent, rfl⟩ := makeDirectory_eq_ok.mp now
        exact made around place so_far absent
          (mem_route_append.mpr (Or.inr (follow_append_iff.mp followed).2))
      · exact so_far
      · exact so_far

/-- **Making a tree** changes nothing that is there. -/
theorem spares_makeTree (t : FileTree) (here : Location) (back : List String) :
    Spares safe t (t.makeTree here back).1 :=
  makeTree_induction (motive := Spares safe t) back
    (fun _ _ spares absent _ => spares.trans (Spares.put_of_absent absent _)) t (Spares.refl _ _)

/-- Directories are made only where the path leads. -/
theorem node?_makeTree {back : List String} {p : Location} (aside : p ∉ route here back.reverse) :
    (t.makeTree here back).1.node? p = t.node? p := by
  refine makeTree_induction (motive := fun made => made.node? p = t.node? p) back ?_ t rfl
  intro made place same _ member
  rw [← same]
  refine node?_put_of_ne ?_ _
  rintro rfl
  exact aside member

/-- When the last directory of a path has been made there are directories all the way. -/
theorem leads_makeTree_cons {last : String} {before : List String}
    (done : (t.makeTree here (last :: before)).2 = .ok ()) :
    (t.makeTree here (last :: before)).1.Leads here (before.reverse ++ [last]) := by
  obtain ⟨around, -, ⟨made, now, whole⟩ | ⟨fault, whole⟩ | ⟨there, whole⟩⟩ :=
    makeTree_cases t here last before
  all_goals rw [whole] at done ⊢
  · obtain ⟨place, followed, absent, rfl⟩ := makeDirectory_eq_ok.mp now
    obtain ⟨leads, rfl⟩ := follow_append_iff.mp followed
    have rooted : step (goal here before.reverse) last ≠ [] := by
      intro empty
      rw [empty] at absent
      cases absent
    have spared : Spares (fun _ => True) around _ := Spares.put_of_absent absent .directory
    exact leads_append.mpr
      ⟨fun p member => spared p trivial _ (leads p member), node?_put_self rooted _⟩
  · cases done
  · unfold isDirectory at there
    split at there
    · next place followed => exact (leads_of_follow followed (of_decide_eq_true there)).1
    · cases there

theorem leads_makeTree {back : List String} (root : t.node? here = some .directory)
    (done : (t.makeTree here back).2 = .ok ()) :
    (t.makeTree here back).1.Leads here back.reverse := by
  cases back with
  | nil =>
      intro p member
      obtain rfl := List.mem_singleton.mp member
      exact root
  | cons last before =>
      rw [List.reverse_cons]
      exact leads_makeTree_cons done

/-! ## Calls -/

/-- The paths at which a call changes what is there. -/
def changes {α : Type} : FileCall α → List String
  | .read _ => []
  | .write path _ => [path]
  | .createTree _ => []
  | .removeTree path => [path]
  | .rename source target => [source, target]

/-- The places at and below those that paths lead to are not safe. -/
def Apart (safe : Location → Prop) (t : FileTree) (working : Location) (paths : List String) :
    Prop :=
  ∀ path ∈ paths, ∀ place, t.locate working path = .ok place → ∀ p, place <+: p → ¬ safe p

variable {α : Type} {request : FileCall α}

theorem Apart.pair {path other : String} (first : Apart safe t working [path])
    (second : Apart safe t working [other]) : Apart safe t working [path, other] := by
  intro one member
  rcases List.mem_cons.mp member with rfl | member
  · exact first _ List.mem_cons_self
  · exact second one member

/-- A path inside a directory leads to the name at the place of the directory. -/
theorem apart_join {directory name : String} (plain : Path.IsName name)
    (away : ∀ p, spot working directory ++ [name] <+: p → ¬ safe p) :
    Apart safe t working [Path.join directory name] := by
  intro path member place located p below
  obtain rfl := List.mem_singleton.mp member
  obtain ⟨-, rfl⟩ := (locate_join_iff plain).mp located
  exact away p below

/-- Writing a file changes nothing that is safe. -/
theorem node?_write {path : String} (bytes : ByteArray) (apart : Apart safe t working [path])
    {p : Location} (kept : safe p) :
    (t.changed (t.write working path bytes)).1.node? p = t.node? p := by
  unfold write
  cases located : t.locate working path with
  | error fault => rfl
  | ok place =>
      rw [ok_bind]
      split
      · rfl
      · refine node?_put_of_ne ?_ _
        rintro rfl
        exact apart path List.mem_cons_self p located p List.prefix_rfl kept

theorem spares_write {path : String} (bytes : ByteArray)
    (apart : Apart safe t working [path]) :
    Spares safe t (t.changed (t.write working path bytes)).1 :=
  Spares.of_eq fun _ kept => node?_write bytes apart kept

/-- What is removed with a directory is at its place or below it. -/
theorem below_of_mem_removalOrder {path : String} {places : List Location}
    (order : t.removalOrder working path = .ok places) {p : Location} (member : p ∈ places) :
    ∃ place, t.locate working path = .ok place ∧ place <+: p := by
  unfold removalOrder at order
  cases located : t.locate working path with
  | error fault =>
      rw [located] at order
      cases order
  | ok place =>
      rw [located, ok_bind] at order
      split at order
      · cases order
      · cases order
      · obtain rfl := Except.ok.inj order
        obtain ⟨entry, below, rfl⟩ := List.mem_map.mp (List.mem_mergeSort.mp member)
        exact ⟨place, rfl, (mem_under.mp below).2⟩

theorem spares_removeTree {path : String} (apart : Apart safe t working [path]) :
    Spares safe t (t.changed (t.removeTree working path)).1 := by
  unfold removeTree
  cases order : t.removalOrder working path with
  | error fault => exact Spares.refl _ _
  | ok places =>
      refine Spares.without fun p member => ?_
      obtain ⟨place, located, below⟩ := below_of_mem_removalOrder order member
      exact apart path List.mem_cons_self place located p below

/-- Moving something changes nothing that is safe. -/
theorem node?_rename {source target : String} (apart : Apart safe t working [source, target])
    {p : Location} (kept : safe p) :
    (t.changed (t.rename working source target)).1.node? p = t.node? p := by
  unfold rename
  cases leaving : t.locate working source with
  | error fault => rfl
  | ok old =>
      cases entering : t.locate working target with
      | error fault => rfl
      | ok new =>
          have moved : (t.move old new).node? p = t.node? p :=
            node?_move_of_outside
              (fun below => apart source List.mem_cons_self old leaving p below kept)
              fun below => apart target (List.mem_cons_of_mem _ List.mem_cons_self) new entering p
                below kept
          rw [ok_bind, ok_bind]
          repeat' split
          all_goals first | exact moved | rfl

theorem spares_rename {source target : String}
    (apart : Apart safe t working [source, target]) :
    Spares safe t (t.changed (t.rename working source target)).1 :=
  Spares.of_eq fun _ kept => node?_rename apart kept

/-- **Calls** spare what is apart from the paths at which they change something. -/
theorem spares_call (apart : Apart safe t working (changes request)) :
    Spares safe t (t.call working request).1 := by
  cases request with
  | read path => exact Spares.refl _ _
  | write path bytes => exact spares_write bytes apart
  | createTree path => exact spares_makeTree _ _ _
  | removeTree path => exact spares_removeTree apart
  | rename source target => exact spares_rename apart

/-- **Calls that are broken off** do so as well. -/
theorem spares_brokenOff (steps : Nat) (apart : Apart safe t working (changes request)) :
    Spares safe t (t.brokenOff working steps request) := by
  cases request with
  | read path => exact Spares.refl _ _
  | write path bytes =>
      cases steps with
      | zero => exact Spares.refl _ _
      | succ steps => exact spares_write _ apart
  | createTree path => exact spares_makeTree _ _ _
  | removeTree path =>
      rw [brokenOff]
      cases order : t.removalOrder working path with
      | error fault => exact Spares.refl _ _
      | ok places =>
          refine Spares.without fun p member => ?_
          obtain ⟨place, located, below⟩ :=
            below_of_mem_removalOrder order (List.mem_of_mem_take member)
          exact apart path List.mem_cons_self place located p below
  | rename source target => exact Spares.refl _ _

/-- Making a directory that is there changes nothing. -/
theorem createTree_of_reached {directory : String} (reached : t.Reached working directory) :
    t.createTree working directory = (t, .ok ()) := by
  have leads : t.Leads (start working directory) (Path.names directory).reverse.reverse := by
    rwa [List.reverse_reverse]
  unfold createTree
  cases back : (Path.names directory).reverse with
  | nil => rfl
  | cons last before =>
      rw [back, List.reverse_cons] at leads
      obtain ⟨way, there⟩ := leads_append.mp leads
      have followed : t.follow (start working directory) (before.reverse ++ [last]) =
          .ok (step (goal (start working directory) before.reverse) last) :=
        follow_append_iff.mpr ⟨way, rfl⟩
      have made : t.makeDirectory (start working directory) (before.reverse ++ [last]) =
          .error .alreadyExists := by
        unfold makeDirectory
        rw [followed, ok_bind, there]
        rfl
      have found : t.isDirectory (start working directory) (before.reverse ++ [last]) = true := by
        unfold isDirectory
        rw [followed]
        exact decide_eq_true there
      rw [makeTree, List.reverse_cons]
      simp only [made, found, ↓reduceIte]

/-- **Making a tree** that succeeds leads to a directory, and changes nothing off the way. -/
theorem of_createTree_ok {directory : String} {made : FileTree}
    (standing : t.node? (start working directory) = some .directory)
    (done : t.createTree working directory = (made, .ok ())) :
    made.Reached working directory ∧
      ∀ p, p ∉ route (start working directory) (Path.names directory) →
        made.node? p = t.node? p := by
  unfold createTree at done
  have leads := leads_makeTree standing (congrArg Prod.snd done)
  rw [done, List.reverse_reverse] at leads
  refine ⟨leads, fun p aside => ?_⟩
  rw [← List.reverse_reverse (Path.names directory)] at aside
  have same := node?_makeTree (t := t) aside
  rwa [done] at same

end BpfDepot.FileTree
