import BpfDepot.Proofs.FileTree.Nodes
import BpfDepot.Proofs.Path

/-! # Where paths lead

A path leads somewhere exactly if there is a directory wherever one of its parts leads
on from (`FileTree.follow_append_iff`). A home is a place that the path of a directory
leads to without passing below it: what happens below a home does not change where the
paths into it lead (`FileTree.Home.congr`).
-/

namespace BpfDepot.FileTree

variable {t : FileTree} {here : Location}

/-- The place that parts lead to. -/
def goal (here : Location) (parts : List String) : Location := parts.foldl step here

/-- The places that parts lead through, the first and the last one included. -/
def route : Location → List String → List Location
  | here, [] => [here]
  | here, part :: rest => here :: route (step here part) rest

/-- There are directories all the way. -/
def Leads (t : FileTree) (here : Location) (parts : List String) : Prop :=
  ∀ p ∈ route here parts, t.node? p = some .directory

theorem goal_append (here : Location) (parts more : List String) :
    goal here (parts ++ more) = goal (goal here parts) more := List.foldl_append

theorem mem_route_self (here : Location) (parts : List String) : here ∈ route here parts := by
  cases parts <;> exact List.mem_cons_self

theorem goal_mem_route (here : Location) (parts : List String) :
    goal here parts ∈ route here parts := by
  induction parts generalizing here with
  | nil => exact List.mem_cons_self
  | cons part rest ih => exact List.mem_cons_of_mem _ (ih _)

theorem mem_route_append {parts : List String} {last : String} {p : Location} :
    p ∈ route here (parts ++ [last]) ↔ p ∈ route here parts ∨ p = step (goal here parts) last := by
  induction parts generalizing here with
  | nil => simp [route, goal]
  | cons part rest ih =>
      rw [List.cons_append, route, route, List.mem_cons, List.mem_cons, ih, or_assoc]
      rfl

theorem leads_append {parts : List String} {last : String} : t.Leads here (parts ++ [last]) ↔
    t.Leads here parts ∧ t.node? (step (goal here parts) last) = some .directory := by
  simp only [Leads, mem_route_append, or_imp, forall_and, forall_eq]

theorem Leads.goal {parts : List String} (leads : t.Leads here parts) :
    t.node? (goal here parts) = some .directory := leads _ (goal_mem_route here parts)

theorem goal_filter (here : Location) (parts : List String) :
    goal here (parts.filter (· ≠ "")) = goal here parts := by
  induction parts generalizing here with
  | nil => rfl
  | cons part rest ih =>
      by_cases empty : part = ""
      · rw [List.filter_cons_of_neg (by simpa using empty), ih, empty]
        rfl
      · rw [List.filter_cons_of_pos (by simpa using empty)]
        exact ih _

theorem mem_route_filter {parts : List String} {p : Location} :
    p ∈ route here (parts.filter (· ≠ "")) ↔ p ∈ route here parts := by
  induction parts generalizing here with
  | nil => exact Iff.rfl
  | cons part rest ih =>
      by_cases empty : part = ""
      · rw [List.filter_cons_of_neg (by simpa using empty), ih, empty, route, List.mem_cons]
        have first := mem_route_self here rest
        exact ⟨Or.inr, fun either => either.elim (fun same => same ▸ first) id⟩
      · rw [List.filter_cons_of_pos (by simpa using empty), route, route, List.mem_cons,
          List.mem_cons, ih]

theorem leads_filter {parts : List String} :
    t.Leads here (parts.filter (· ≠ "")) ↔ t.Leads here parts := by
  simp only [Leads, mem_route_filter]

theorem follow_append {parts : List String} (leads : t.Leads here parts) (more : List String) :
    t.follow here (parts ++ more) = t.follow (goal here parts) more := by
  induction parts generalizing here with
  | nil => rfl
  | cons part rest ih =>
      rw [List.cons_append, follow, leads here List.mem_cons_self]
      exact ih fun p member => leads p (List.mem_cons_of_mem _ member)

/-- **Following.** A path leads to a place exactly if there are directories all the way
to its last part. -/
theorem follow_append_iff {parts : List String} {last : String} {p : Location} :
    t.follow here (parts ++ [last]) = .ok p ↔
      t.Leads here parts ∧ p = step (goal here parts) last := by
  induction parts generalizing here with
  | nil =>
      rw [List.nil_append, follow]
      cases node : t.node? here with
      | none => simp [Leads, route, node]
      | some node' =>
          cases node' with
          | file bytes => simp [Leads, route, node]
          | directory => simp [Leads, route, node, follow, goal, eq_comm]
  | cons part rest ih =>
      rw [List.cons_append, follow]
      cases node : t.node? here with
      | none => simp [Leads, route, node]
      | some node' =>
          cases node' with
          | file bytes => simp [Leads, route, node]
          | directory =>
              simp only [ih]
              simp only [Leads, route, List.forall_mem_cons, node, true_and]
              rfl

/-- A way to a directory is a way along directories. -/
theorem leads_of_follow {parts : List String} {p : Location}
    (followed : t.follow here parts = .ok p) (node : t.node? p = some .directory) :
    t.Leads here parts ∧ goal here parts = p := by
  rcases List.eq_nil_or_concat parts with rfl | ⟨parts, last, rfl⟩
  · obtain rfl := Except.ok.inj followed
    refine ⟨fun q member => ?_, rfl⟩
    obtain rfl := List.mem_singleton.mp member
    exact node
  · rw [List.concat_eq_append] at followed ⊢
    obtain ⟨leads, rfl⟩ := follow_append_iff.mp followed
    exact ⟨leads_append.mpr ⟨leads, node⟩, goal_append _ _ _⟩

/-! ## Paths inside a directory -/

variable {working home : Location} {directory name : String}

theorem step_of_isName (plain : Path.IsName name) (here : Location) :
    step here name = here ++ [name] := by
  unfold step
  simp [plain.present, plain.inside, plain.below]

theorem start_join (plain : Path.IsName name) (working : Location) (directory : String) :
    start working (Path.join directory name) = start working directory := by
  unfold start
  rw [Path.isAbsolute_join plain]

/-- The place that the path of a directory leads to. -/
def spot (working : Location) (directory : String) : Location :=
  goal (start working directory) (Path.names directory)

/-- The path of a directory leads to a directory. -/
def Reached (t : FileTree) (working : Location) (directory : String) : Prop :=
  t.Leads (start working directory) (Path.names directory)

theorem spot_join (plain : Path.IsName name) (working : Location) (directory : String) :
    spot working (Path.join directory name) = spot working directory ++ [name] := by
  unfold spot
  rw [start_join plain, Path.names_join plain, goal_append]
  exact step_of_isName plain _

theorem reached_join_iff (plain : Path.IsName name) :
    t.Reached working (Path.join directory name) ↔
      t.Reached working directory ∧
        t.node? (spot working directory ++ [name]) = some .directory := by
  unfold Reached spot
  rw [start_join plain, Path.names_join plain, leads_append, step_of_isName plain]

/-- **Paths inside a directory.** Such a path leads somewhere exactly if the directory is
reached, and then to the name at the place of the directory. -/
theorem locate_join_iff (plain : Path.IsName name) {p : Location} :
    t.locate working (Path.join directory name) = .ok p ↔
      t.Reached working directory ∧ p = spot working directory ++ [name] := by
  obtain ⟨before, written, same⟩ := Path.parts_join plain directory
  unfold locate Reached spot
  rw [if_neg (Path.join_ne_empty plain directory), written, start_join plain,
    follow_append_iff, step_of_isName plain, ← same, goal_filter, leads_filter]

/-- The path of a directory leads through no place below that of the directory, so making
the directories of the path puts nothing into it. -/
def Direct (working : Location) (directory : String) : Prop :=
  ∀ p ∈ route (start working directory) (Path.names directory),
    spot working directory <+: p → p = spot working directory

/-- A path that does not lead back leads through the places above its end. -/
theorem isPrefix_goal {parts : List String} (onward : ".." ∉ parts) {p : Location}
    (member : p ∈ route here parts) : p <+: goal here parts := by
  induction parts generalizing here p with
  | nil => exact List.mem_singleton.mp member ▸ List.prefix_rfl
  | cons part rest ih =>
      rw [List.mem_cons, not_or] at onward
      have further {p : Location} (member : p ∈ route (step here part) rest) :
          p <+: goal here (part :: rest) := ih onward.2 member
      rcases List.mem_cons.mp member with rfl | member
      · have next : p <+: step p part := by
          unfold step
          split
          · exact List.prefix_rfl
          · rw [if_neg (Ne.symm onward.1)]
            exact List.prefix_append _ _
        exact next.trans (further (mem_route_self _ _))
      · exact further member

theorem direct_of_onward (onward : ".." ∉ Path.names directory) (working : Location) :
    Direct working directory :=
  fun _ member below => ((isPrefix_goal onward member).eq_of_length_le below.length_le)

/-- Nothing that is not below a place is below what is in it. -/
theorem not_below_of_outside {q rest : Location} (outside : home <+: q → q = home)
    (further : rest ≠ []) : ¬ home ++ rest <+: q := by
  intro below
  obtain rfl := outside ((List.prefix_append _ _).trans below)
  have longer := below.length_le
  rw [List.length_append] at longer
  exact further (List.length_eq_zero_iff.mp (by omega))

/-- The path of a directory leads to a place, and through no place below it. -/
structure Home (t : FileTree) (working : Location) (directory : String) (home : Location) :
    Prop where
  /-- The directory is there. -/
  reached : t.Reached working directory
  /-- It is at the place. -/
  ends : spot working directory = home
  /-- The way to it does not lead through it. -/
  apart : ∀ p ∈ route (start working directory) (Path.names directory), home <+: p → p = home

namespace Home

theorem node (at_home : t.Home working directory home) : t.node? home = some .directory :=
  at_home.ends ▸ Leads.goal at_home.reached

theorem locate (at_home : t.Home working directory home) (plain : Path.IsName name) :
    t.locate working (Path.join directory name) = .ok (home ++ [name]) :=
  (locate_join_iff plain).mpr ⟨at_home.reached, by rw [at_home.ends]⟩

theorem join (at_home : t.Home working directory home) (plain : Path.IsName name)
    (node : t.node? (home ++ [name]) = some .directory) :
    t.Home working (Path.join directory name) (home ++ [name]) := by
  constructor
  · exact (reached_join_iff plain).mpr ⟨at_home.reached, by rwa [at_home.ends]⟩
  · rw [spot_join plain, at_home.ends]
  · rw [start_join plain, Path.names_join plain]
    intro p member below
    rcases mem_route_append.mp member with before | rfl
    · exact absurd below (not_below_of_outside (at_home.apart p before) (by simp))
    · rw [step_of_isName plain]
      exact congrArg (· ++ [name]) at_home.ends

/-- The name of a directory in the working directory leads to it. -/
theorem of_isName (plain : Path.IsName name) (standing : t.node? working = some .directory)
    (node : t.node? (working ++ [name]) = some .directory) :
    t.Home working name (working ++ [name]) := by
  have alone : route (start working "") (Path.names "") = [working] := rfl
  have here : t.Home working "" working := by
    constructor
    · intro place member
      rw [alone, List.mem_singleton] at member
      rw [member, standing]
    · rfl
    · rw [alone]
      exact fun place member _ => List.mem_singleton.mp member
  have inside := here.join plain node
  rwa [show Path.join "" name = name by simp [Path.join]] at inside

/-- **Changes below a home** leave it a home. -/
theorem congr (at_home : t.Home working directory home) {changed : FileTree}
    (same : ∀ p, (home <+: p → p = home) → changed.node? p = t.node? p) :
    changed.Home working directory home where
  reached p member := (same p (at_home.apart p member)).trans (at_home.reached p member)
  ends := at_home.ends
  apart := at_home.apart

/-- What is put into a home leaves it a home. -/
theorem put (at_home : t.Home working directory home) (name : String) (node : Node) :
    (t.put (home ++ [name]) node).Home working directory home := by
  refine at_home.congr fun p outside => node?_put_of_ne ?_ _
  rintro rfl
  exact not_below_of_outside outside (by simp) List.prefix_rfl

end Home

end BpfDepot.FileTree
