import BpfDepot.Proofs.PackageStore.Confinement
import BpfDepot.Proofs.PackageStore.Putting
import BpfDepot.Proofs.PackageStore.Reopening

/-! # A store and what is around it

A store whose directory is kept and what is around it leave each other alone. What happens
elsewhere does not matter to the store as long as directories stay directories
(`PackageStore.Kept.of_inside`). In turn a history changes nothing outside of the directory, and
on the shelf there are only packages that the history has brought
(`PackageStore.Kept.answerAll_follows`).
-/

namespace BpfDepot.PackageStore

open FileTree World

-- what the bytes of a package are does not matter here, nor what their digest is
attribute [local irreducible] Package.configBytes Digest.ofBytes

variable {P : Package → Prop} {shelf : Package → Prop} {home : Location}
  {directory folder : String} {p q : Package} {s s' : PackageStore} {w w' w'' : World}

/-! ## What happens elsewhere -/

/-- Two worlds have the same in the directory of a store, and what is a directory in the first
one is one in the second one. -/
structure Inside (home : Location) (w w' : World) : Prop where
  same : ∀ p, home <+: p → w'.tree.node? p = w.tree.node? p
  still : ∀ p, w.tree.node? p = some .directory → w'.tree.node? p = some .directory
  working : w'.working = w.working
  quiet : w.Quiet → w'.Quiet

/-- Where directories stay the path of a store leads to its directory. -/
theorem home_of_still {t changed : FileTree} {working : Location}
    (at_home : t.Home working directory home)
    (still : ∀ p, t.node? p = some .directory → changed.node? p = some .directory) :
    changed.Home working directory home :=
  ⟨fun p member => still p (at_home.reached p member), at_home.ends, at_home.apart⟩

theorem Stocked.of_inside (stocked : Stocked shelf directory home w) (inside : Inside home w w') :
    Stocked shelf directory home w' := by
  have same (rest : Location) : w'.tree.node? (home ++ rest) = w.tree.node? (home ++ rest) :=
    inside.same _ (List.prefix_append _ _)
  refine ⟨inside.quiet stocked.quiet, ?at_home, ?held, ?vacant, ?around, ?index, ?bare⟩
  case at_home =>
    rw [inside.working]
    exact home_of_still stocked.at_home inside.still
  case held => exact fun p there rest => (same _).trans (stocked.held p there rest)
  case vacant => exact fun name free rest => (same _).trans (stocked.vacant name free rest)
  case around =>
    rw [same]
    exact stocked.around
  case index =>
    rw [same]
    exact stocked.index
  case bare =>
    exact fun first rest apart more => (same _).trans (stocked.bare first rest apart more)

/-- **Elsewhere.** What happens elsewhere does not matter to a store. -/
theorem Kept.of_inside (kept : Kept shelf home s w) (inside : Inside home w w') :
    Kept shelf home s w' := by
  refine ⟨kept.stocked.of_inside inside, kept.lodging, ?_⟩
  unfold Filed
  rw [inside.same _ (List.prefix_append _ _)]
  exact kept.filed

/-! ## What lies on the shelf -/

theorem Lies.unique {t : FileTree} (lies : Lies t home folder p) (other : Lies t home folder q) :
    q = p := by
  obtain ⟨bytes, config, decoded⟩ := lies.config
  obtain ⟨bytes', config', decoded'⟩ := other.config
  rw [config] at config'
  obtain rfl := Node.file.inj (Option.some.inj config')
  rw [decoded] at decoded'
  have program := other.program
  rw [lies.program] at program
  cases p
  cases q
  rw [Package.mk.injEq]
  exact ⟨(Node.file.inj (Option.some.inj program)).symm, (Except.ok.inj decoded').symm⟩

/-- What lies on the shelf is one of its packages. -/
theorem Stocked.of_lies (stocked : Stocked shelf directory home w)
    (lies : Lies w.tree home folder p) : shelf p := by
  obtain ⟨q, held, rfl⟩ : ∃ q, shelf q ∧ q.folder = folder := by
    by_contra free
    have nothing := stocked.vacant folder (fun q held same => free ⟨q, held, same⟩) []
    have place := lies.place
    rw [List.append_assoc, List.singleton_append, nothing] at place
    cases place
  rwa [(stocked.lies held).unique lies]

/-- Everything that lies on the shelf has a property. -/
def AllLie (P : Package → Prop) (home : Location) (t : FileTree) : Prop :=
  ∀ folder p, Lies t home folder p → P p

theorem Stocked.allLie (stocked : Stocked shelf directory home w) (all : ∀ p, shelf p → P p) :
    AllLie P home w.tree := fun _ p lies => all p (stocked.of_lies lies)

/-- Shelving a package brings that package only. -/
theorem Stocked.allLie_of_shelve (stocked : Stocked shelf directory home w)
    (all : AllLie P home w.tree) (brought : P p)
    (shelved : Runs (PackageStore.shelve directory p) w (.ok ()) w') : AllLie P home w'.tree := by
  have before (q : Package) (held : shelf q) : P q := all _ q (stocked.lies held)
  unfold PackageStore.shelve at shelved
  by_cases free : ∀ q, shelf q → q.folder ≠ p.folder
  · obtain ⟨tree, writes, after⟩ := stocked.writePackage_of_free free
    obtain ⟨-, rfl⟩ := ((Runs.lift (stocked.isComplete_of_free free)).bind
      (writes.explain _)).unique shelved
    exact after.allLie fun q either => either.elim (before q) fun same => same ▸ brought
  · push Not at free
    obtain ⟨q, held, same⟩ := free
    have complete := stocked.isComplete_of_held held
    rw [Package.digest_eq_of_folder_eq same] at complete
    have further := (Runs.lift complete).rest shelved
    obtain ⟨-, rfl⟩ := (Runs.pure () w).unique further
    exact all

/-- Preparing an operation brings its package only. -/
theorem Stocked.allLie_of_prepare (stocked : Stocked shelf s.directory home w)
    (all : AllLie P home w.tree) {operation : Operation} (brought : ∀ p ∈ operation.packages, P p)
    {change : Change} (prepared : Operates operation.prepare s w (.ok change) s' w') :
    AllLie P home w'.tree := by
  cases operation with
  | put text p =>
      obtain ⟨outcome, made, same⟩ :=
        Operation.of_binding (fun _ _ _ _ _ made => (newEntry_cases made).1) prepared
      rcases (newEntry_cases made).2 with ⟨error, rfl, -⟩ | ⟨key, shelved, v, -, runs, tree, -, rfl⟩
      · cases same
      · cases shelved with
        | error error => cases same
        | ok _ =>
            rw [tree]
            exact stocked.allLie_of_shelve all (brought p List.mem_cons_self) runs
  | tag source target =>
      obtain ⟨outcome, made, -⟩ :=
        Operation.of_binding (fun _ _ _ _ _ made => (copyEntry_cases made).1) prepared
      rwa [(copyEntry_cases made).2.1]
  | remove text =>
      obtain ⟨rfl, -⟩ := Operation.prepare_remove_cases prepared
      exact all

/-! ## What a history changes -/

/-- **What a history does to a world.** Outside of a place nothing changes, and if what lies on
the shelf had a property it still does. -/
structure Follows (P : Package → Prop) (home : Location) (w w' : World) : Prop where
  working : w'.working = w.working
  outside : ∀ p, ¬ home <+: p → w'.tree.node? p = w.tree.node? p
  shelf : AllLie P home w.tree → AllLie P home w'.tree

theorem Follows.refl (P : Package → Prop) (home : Location) (w : World) : Follows P home w w :=
  ⟨rfl, fun _ _ => rfl, id⟩

theorem Follows.trans (first : Follows P home w w') (second : Follows P home w' w'') :
    Follows P home w w'' :=
  ⟨second.working.trans first.working,
    fun p apart => (second.outside p apart).trans (first.outside p apart),
    fun all => second.shelf (first.shelf all)⟩

/-- A store whose directory is kept can change nothing outside of it. -/
theorem Kept.contained (kept : Kept shelf home s w) :
    Contained home (fun _ => False) w.tree s w := by
  have at_home := kept.stocked.at_home
  have around : Around home w.tree w.working s.directory :=
    ⟨at_home.ends ▸ List.prefix_rfl, fun p member => Or.inr (at_home.reached p member)⟩
  refine ⟨around, fun key entry found => ?_, Confined.refl _ _ _⟩
  obtain ⟨-, path, ⟨p, -, digest⟩, -⟩ := kept.lodging key entry found
  rw [path, ← digest]
  exact ((around.join isName_shelf).join p.isName_folder).clears

/-- **Operations** change nothing outside of the directory, and bring their packages only. -/
theorem Kept.carryOut_follows (kept : Kept shelf home s w) (clock : ∀ i, (w.clock i).Valid)
    {operation : Operation} (small : ∀ p ∈ operation.packages, p.size < 2 ^ 64)
    (brought : ∀ p ∈ operation.packages, P p) {result : Except Error (Option StoredPackage)}
    (carried : Operates operation.carryOut s w result s' w') : Follows P home w w' := by
  obtain ⟨working, contained⟩ := kept.contained.perform (Operation.perform_of_carryOut carried)
  refine ⟨working, fun p apart => (contained.confined p apart).resolve_right And.right,
    fun all => ?_⟩
  rcases kept.prepare clock small with
    ⟨error, failed⟩ | ⟨change, tree, readings, between, prepared, ready⟩
  · obtain ⟨-, -, rfl⟩ := (Operation.carryOut_of_error failed).unique carried
    exact all
  · obtain ⟨tree, -, aligned, -⟩ :=
      Stocked.align (s := { s with index := change.index }) ready.stocked ready.lodging
        ready.replaced
    obtain ⟨events, done⟩ := Operation.carryOut_of_ok prepared aligned
    obtain ⟨-, -, rfl⟩ := done.unique carried
    have prior := kept.stocked.allLie_of_prepare all brought prepared
    intro folder p lies
    have kept := lies_of_align_iff (s := { s with index := change.index }) (p := p) folder
      ready.stocked.at_home aligned
    exact prior folder p (kept.2.mp lies).1

/-- **Steps** of a history. -/
theorem Kept.answer_follows (kept : Kept shelf home s w) (clock : ∀ i, (w.clock i).Valid)
    {request : Request} (small : ∀ p ∈ (Step.ask request).packages, p.size < 2 ^ 64)
    (brought : ∀ p ∈ (Step.ask request).packages, P p) {reply : Reply}
    (answered : Operates (PackageStore.answer request) s w (.ok reply) s' w') :
    Follows P home w w' := by
  cases request with
  | change operation =>
      obtain ⟨result, s₁, w₁, -, carried, -⟩ := kept.carryOut clock small
      obtain ⟨-, rfl, rfl⟩ := (operates_change carried).unique answered
      exact kept.carryOut_follows clock small brought carried
  | list =>
      obtain ⟨-, -, rfl⟩ := (operates_list s w).unique answered
      exact .refl P home w'
  | get text =>
      obtain ⟨-, -, rfl⟩ := (operates_find text s w).unique answered
      exact .refl P home w'
  | load text =>
      obtain ⟨result, loaded⟩ := kept.load text
      obtain ⟨-, -, rfl⟩ := (operates_load loaded).unique answered
      exact .refl P home w'

/-- **Runs.** A history is answered and keeps the directory. It changes nothing outside of the
directory, and brings the packages of its steps only. -/
theorem Kept.answerAll_follows {steps : List Step} (kept : Kept shelf home s w)
    (clock : ∀ i, (w.clock i).Valid) (small : ∀ step ∈ steps, ∀ p ∈ step.packages, p.size < 2 ^ 64)
    (brought : ∀ step ∈ steps, ∀ p ∈ step.packages, P p) :
    ∃ replies s' w' after, Operates (PackageStore.answerAll steps) s w (.ok replies) s' w' ∧
      Kept after home s' w' ∧ Follows P home w w' ∧ s'.directory = s.directory ∧
      w'.clock = w.clock := by
  induction steps generalizing shelf s w with
  | nil => exact ⟨[], s, w, shelf, Operates.pure _ _ _, kept, .refl P home w, rfl, rfl⟩
  | cons step rest ih =>
      have fits := fun other member => small other (List.mem_cons_of_mem step member)
      have given := fun other member => brought other (List.mem_cons_of_mem step member)
      cases step with
      | ask request =>
          obtain ⟨reply, s₁, -, w₁, between, first, -, next, -, place, turned⟩ :=
            kept.answer clock (kept.agree fun _ => rfl) (small _ List.mem_cons_self)
          have follows := kept.answer_follows clock (small _ List.mem_cons_self)
            (brought _ List.mem_cons_self) first
          rw [← turned] at clock
          obtain ⟨replies, s', w', after, ran, last, further, same, turns⟩ :=
            ih next clock fits given
          exact ⟨reply :: replies, s', w', after, first.bind (ran.bind (Operates.pure _ _ _)), last,
            follows.trans further, same.trans place, turns.trans turned⟩
      | reopen =>
          obtain ⟨r, opened, agree, still⟩ := kept.reopen
          obtain ⟨replies, s', w', after, ran, last, further, same, turns⟩ :=
            ih still clock fits given
          have taken : Operates (set r : StoreM WorldM PUnit) s w (.ok ⟨⟩) r w := rfl
          exact ⟨replies, s', w', after, (Operates.get s w).bind (opened.bind (taken.bind ran)),
            last, further, same.trans agree.directory, turns⟩

end BpfDepot.PackageStore
