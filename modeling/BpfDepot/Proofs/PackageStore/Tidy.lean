import BpfDepot.Proofs.PackageStore.Refinement
import BpfDepot.Proofs.PackageStore.Reopening

/-! # No directory without an entry

The directories of packages are those that the entries of the index name, each with its two
files, and nothing is left of what was written beside them (`PackageStore.Tidy`). This holds
after any history of operations, questions and reopenings, and so a directory goes in the
very operation that takes away the last entry that names it
(`PackageStore.directories_named`). It is the map that a store represents which tells the
directories, and what is asked of the store changes the map step by step
(`PackageStore.Represents.answer`, `PackageStore.Represents.answerAll`).
-/

namespace BpfDepot

open FileTree World

/-- A name that ends otherwise is not that of something that is being made. -/
theorem Path.ne_temporary {name other : String} (ends : name.toList.getLast? ≠ some 'p') :
    name ≠ temporary other := by
  rintro rfl
  apply ends
  rw [temporary, String.toList_append, List.getLast?_append]
  rfl

namespace Package

/-- What kind of thing stands at a place in the directory of any package: there are two files
and nothing else. -/
def kind? : Location → Option FileKind
  | [] => some .directory
  | [name] => if name = programName ∨ name = Configuration.fileName then some .file else none
  | _ => none

theorem map_kind_node? (p : Package) (rest : Location) :
    (p.node? rest).map Node.kind = kind? rest := by
  match rest with
  | [] => rfl
  | [name] =>
      simp only [node?, kind?]
      by_cases program : name = programName
      · rw [if_pos program, if_pos (Or.inl program)]
        rfl
      · by_cases config : name = Configuration.fileName
        · rw [if_neg program, if_pos config, if_pos (Or.inr config)]
          rfl
        · rw [if_neg program, if_neg config, if_neg (not_or.mpr ⟨program, config⟩)]
          rfl
  | _ :: _ :: _ => rfl

/-- Nothing is being made in the directory of a package. -/
theorem kind?_temporary (below : Location) (name : String) (rest : Location) :
    kind? (below ++ Path.temporary name :: rest) = none := by
  match below, rest with
  | [], [] =>
      refine if_neg (not_or.mpr ⟨?_, ?_⟩)
      · exact (Path.ne_temporary (by decide)).symm
      · exact (Path.ne_temporary (by decide)).symm
  | [], _ :: _ => rfl
  | [_], _ => rfl
  | _ :: _ :: _, _ => rfl

end Package

namespace PackageStore

variable {b : Bindings} {shelf : Package → Prop} {home : Location} {s t : PackageStore}
  {w : World} {ps : List Package} {name : String}

/-- An entry of the index names a directory of packages. -/
def Names (s : PackageStore) (name : String) : Prop :=
  ∃ key entry, s.index.get? key = some entry ∧ Digest.digits entry.digest = name

/-- **Tidiness.** The directories of packages are exactly those that entries name. -/
structure Tidy (home : Location) (s : PackageStore) (t : FileTree) : Prop where
  /-- A directory that an entry names is there, with the two files of a package. -/
  named : ∀ name, s.Names name → ∀ rest,
    (t.node? (home ++ shelfName :: name :: rest)).map Node.kind = Package.kind? rest
  /-- Beside these directories there is nothing. -/
  unnamed : ∀ name, ¬ s.Names name → ∀ rest,
    t.node? (home ++ shelfName :: name :: rest) = none
  /-- Nothing that is being made is left, wherever it was made. -/
  undrafted : ∀ below name rest, t.node? (home ++ below ++ Path.temporary name :: rest) = none

/-- A directory goes exactly if it was named and is not named any more. -/
theorem Tidy.goes_iff {before after : FileTree} (tidy : Tidy home s before)
    (still : Tidy home t after) :
    before.node? (home ++ [shelfName, name]) = some .directory ∧
      after.node? (home ++ [shelfName, name]) = none ↔ s.Names name ∧ ¬ t.Names name := by
  constructor
  · rintro ⟨there, gone⟩
    constructor
    · by_contra unnamed
      rw [tidy.unnamed name unnamed []] at there
      cases there
    · intro named
      have kind := still.named name named []
      rw [gone] at kind
      cases kind
  · rintro ⟨named, unnamed⟩
    refine ⟨?_, still.unnamed name unnamed []⟩
    obtain ⟨node, there, kind⟩ := Option.map_eq_some_iff.mp (tidy.named name named [])
    cases node with
    | directory => exact there
    | file bytes => cases kind

/-! ## Names and maps -/

namespace Represents

/-- The directories that entries name are those of the packages that are bound. -/
theorem names_iff (represents : Represents b home s w) :
    s.Names name ↔ ∃ p, b.Holds p ∧ p.folder = name := by
  constructor
  · rintro ⟨key, entry, found, rfl⟩
    obtain ⟨p, bound, described⟩ := represents.indexed.describes found
    exact ⟨p, ⟨key, bound⟩, by rw [described.digest, Package.folder]⟩
  · rintro ⟨p, ⟨key, bound⟩, rfl⟩
    obtain ⟨entry, found, described⟩ := represents.indexed.present key p bound
    exact ⟨key, entry, found, by rw [described.digest, Package.folder]⟩

/-- A store that represents a map is tidy. -/
theorem tidy (represents : Represents b home s w) : Tidy home s w.tree := by
  have unnamed (name : String) (nowhere : ¬ s.Names name) (rest : Location) :
      w.tree.node? (home ++ shelfName :: name :: rest) = none :=
    represents.stocked.vacant name
      (fun p held same => nowhere (represents.names_iff.mpr ⟨p, held, same⟩)) rest
  have named (name : String) (here : s.Names name) (rest : Location) :
      (w.tree.node? (home ++ shelfName :: name :: rest)).map Node.kind = Package.kind? rest := by
    obtain ⟨p, held, rfl⟩ := represents.names_iff.mp here
    rw [represents.stocked.held p held rest, p.map_kind_node?]
  refine ⟨named, unnamed, fun below name rest => ?_⟩
  rw [List.append_assoc]
  match below with
  | [] =>
      exact represents.stocked.bare _ rest (Path.ne_temporary (by decide)).symm
        fun same => absurd same (Path.ne_temporary (by decide)).symm
  | first :: below =>
      by_cases around : first = shelfName
      · subst around
        match below with
        | [] =>
            refine unnamed _ (fun here => ?_) rest
            obtain ⟨p, -, same⟩ := represents.names_iff.mp here
            exact p.folder_ne_temporary _ same
        | folder :: below =>
            by_cases here : s.Names folder
            · refine Option.map_eq_none_iff.mp ((named folder here _).trans ?_)
              exact Package.kind?_temporary below name rest
            · exact unnamed folder here _
      · exact represents.stocked.bare first _ around fun _ => by simp

end Represents

/-! ## Histories -/

/-- The map after a step of a history. -/
def Bindings.afterStep (b : Bindings) : Step → Bindings
  | .ask (.change operation) => b.after operation
  | _ => b

namespace Bindings

theorem holds_of_afterStep {step : Step} {q : Package} (holds : (b.afterStep step).Holds q) :
    b.Holds q ∨ q ∈ step.packages := by
  match step with
  | .ask (.change operation) => exact holds_of_after holds
  | .ask .list | .ask (.get _) | .ask (.load _) | .reopen => exact Or.inl holds

/-- What is held after a history was held before it, or is brought by one of its steps. -/
theorem holds_of_afterSteps {steps : List Step} {q : Package}
    (holds : (steps.foldl afterStep b).Holds q) :
    b.Holds q ∨ ∃ step ∈ steps, q ∈ step.packages := by
  induction steps generalizing b with
  | nil => exact Or.inl holds
  | cons step rest ih =>
      rcases ih holds with early | ⟨other, member, one⟩
      · exact (holds_of_afterStep early).imp_right fun one => ⟨step, List.mem_cons_self, one⟩
      · exact Or.inr ⟨other, List.mem_cons_of_mem step member, one⟩

/-- Only an operation changes what is bound. -/
theorem afterStep_eq {step : Step} (question : ∀ operation, step ≠ .ask (.change operation)) :
    b.afterStep step = b := by
  match step with
  | .ask (.change operation) => exact absurd rfl (question operation)
  | .ask .list | .ask (.get _) | .ask (.load _) | .reopen => rfl

end Bindings

namespace Represents

/-- A handle represents a map if one that agrees with it does. -/
theorem of_agree (represents : Represents b home s w) (agree : Agree t s) :
    Represents b home t w := by
  constructor
  · constructor
    · intro key unbound
      rw [agree.bindings, represents.indexed.absent key unbound]
    · intro key p bound
      rw [agree.bindings, agree.directory]
      exact represents.indexed.present key p bound
  · rw [agree.directory]
    exact represents.stocked

/-- **Requests.** A request is answered by a store that represents a map, and then the store
represents the map after it. -/
theorem answer (represents : Represents b home s w) (kept : Kept shelf home s w)
    (clock : ∀ i, (w.clock i).Valid) (told : Package.Told ps) (known : ∀ q, b.Holds q → q ∈ ps)
    {request : Request} (small : ∀ p ∈ (Step.ask request).packages, p.size < 2 ^ 64)
    (brought : ∀ p ∈ (Step.ask request).packages, p ∈ ps) :
    ∃ reply s' w' after, Operates (PackageStore.answer request) s w (.ok reply) s' w' ∧
      Represents (b.afterStep (.ask request)) home s' w' ∧ Kept after home s' w' ∧
      s'.directory = s.directory ∧ w'.clock = w.clock := by
  obtain ⟨reply, s', t, w', after, answered, -, still, -, place, turned⟩ :=
    kept.answer clock (kept.agree fun _ => rfl) small
  refine ⟨reply, s', w', after, answered, ?_, still, place, turned⟩
  cases request with
  | change operation =>
      obtain ⟨result, s₁, w₁, -, carried, -⟩ := kept.carryOut clock small
      obtain ⟨outcome, s₂, w₂, performed, -, next⟩ := represents.perform told known brought
      obtain ⟨-, rfl, rfl⟩ := performed.unique (Operation.perform_of_carryOut carried)
      obtain ⟨-, rfl, rfl⟩ := (operates_change carried).unique answered
      exact next
  | list =>
      obtain ⟨-, rfl, rfl⟩ := (operates_list s w).unique answered
      exact represents
  | get text =>
      obtain ⟨-, rfl, rfl⟩ := (operates_find text s w).unique answered
      exact represents
  | load text =>
      obtain ⟨result, loaded⟩ := kept.load text
      obtain ⟨-, rfl, rfl⟩ := (operates_load loaded).unique answered
      exact represents

/-- **Runs.** A history is answered, and then the store represents the map after its steps. -/
theorem answerAll {steps : List Step} (represents : Represents b home s w)
    (kept : Kept shelf home s w) (clock : ∀ i, (w.clock i).Valid) (told : Package.Told ps)
    (known : ∀ q, b.Holds q → q ∈ ps)
    (small : ∀ step ∈ steps, ∀ p ∈ step.packages, p.size < 2 ^ 64)
    (brought : ∀ step ∈ steps, ∀ p ∈ step.packages, p ∈ ps) :
    ∃ replies s' w' after, Operates (PackageStore.answerAll steps) s w (.ok replies) s' w' ∧
      Represents (steps.foldl Bindings.afterStep b) home s' w' ∧ Kept after home s' w' ∧
      s'.directory = s.directory ∧ w'.clock = w.clock := by
  induction steps generalizing b shelf s w with
  | nil => exact ⟨[], s, w, shelf, Operates.pure _ _ _, represents, kept, rfl, rfl⟩
  | cons step rest ih =>
      have fits := fun other member => small other (List.mem_cons_of_mem step member)
      have given := fun other member => brought other (List.mem_cons_of_mem step member)
      cases step with
      | ask request =>
          have here := brought _ List.mem_cons_self
          obtain ⟨reply, s₁, w₁, between, first, next, still, place, turned⟩ :=
            represents.answer kept clock told known (small _ List.mem_cons_self) here
          rw [← turned] at clock
          obtain ⟨replies, s', w', after, ran, last, stays, same, turns⟩ := ih next still clock
            (fun q holds => (Bindings.holds_of_afterStep holds).elim (known q) (here q)) fits given
          exact ⟨reply :: replies, s', w', after,
            first.bind (ran.bind (Operates.pure _ _ _)), last, stays, same.trans place,
            turns.trans turned⟩
      | reopen =>
          obtain ⟨r, opened, agree, still⟩ := kept.reopen
          obtain ⟨replies, s', w', after, ran, last, stays, same, turns⟩ :=
            ih (represents.of_agree agree) still clock known fits given
          have taken : Operates (set r : StoreM WorldM PUnit) s w (.ok ⟨⟩) r w := rfl
          exact ⟨replies, s', w', after,
            (Operates.get s w).bind (opened.bind (taken.bind ran)), last, stays,
            same.trans agree.directory, turns⟩

end Represents

/-- **Directories.** Open a store where nothing stands below the place of its directory, and
let nothing else write there and no call be broken off. After any history the directories of
packages are exactly those that entries name, if digests tell apart the byte strings of the
packages that the history brings. Whatever the next step is, they are so after it too; and a
directory goes in it exactly if the step is an operation that takes away the last entry that
names the directory. -/
theorem directories_named {directory : String} {before world : World} {store : PackageStore}
    (quiet : before.Quiet) (standing : before.tree.node? before.working = some .directory)
    (direct : Direct before.working directory)
    (fresh : before.tree.Bare (spot before.working directory))
    (opened : Runs (openAt directory) before (.ok store) world)
    (clock : ∀ i, (world.clock i).Valid) (steps : List Step) (step : Step)
    (small : ∀ other ∈ steps ++ [step], ∀ p ∈ other.packages, p.size < 2 ^ 64)
    (told : Package.Told ((steps ++ [step]).flatMap Step.packages)) :
    ∃ replies reply s w t v,
      Operates (answerAll steps) store world (.ok replies) s w ∧
      Operates (answerAll [step]) s w (.ok reply) t v ∧
      Tidy (spot before.working directory) s w.tree ∧
      Tidy (spot before.working directory) t v.tree ∧
      ∀ name,
        w.tree.node? (spot before.working directory ++ [shelfName, name]) = some .directory ∧
          v.tree.node? (spot before.working directory ++ [shelfName, name]) = none ↔
        (∃ operation, step = .ask (.change operation)) ∧ s.Names name ∧ ¬ t.Names name := by
  have brought (other : Step) (member : other ∈ steps ++ [step]) (p : Package)
      (one : p ∈ other.packages) : p ∈ (steps ++ [step]).flatMap Step.packages :=
    List.mem_flatMap.mpr ⟨other, member, one⟩
  have earlier {other : Step} (member : other ∈ steps) : other ∈ steps ++ [step] :=
    List.mem_append_left _ member
  have last {other : Step} (member : other ∈ [step]) : other ∈ steps ++ [step] :=
    List.mem_append_right _ member
  have known : ∀ q, (steps.foldl Bindings.afterStep Bindings.none).Holds q →
      q ∈ (steps ++ [step]).flatMap Step.packages := fun q holds =>
    (Bindings.holds_of_afterSteps holds).elim (fun none => absurd none (Bindings.not_holds_none q))
      fun ⟨other, member, one⟩ => brought other (earlier member) q one
  obtain ⟨replies, s, w, between, ran, represents, kept, -, turned⟩ :=
    (represents_of_openAt quiet standing direct fresh opened).answerAll
      (kept_of_openAt quiet standing direct fresh opened) clock told
      (fun q holds => absurd holds (Bindings.not_holds_none q))
      (fun other member => small other (earlier member))
      (fun other member => brought other (earlier member))
  rw [← turned] at clock
  obtain ⟨reply, t, v, after, stepped, next, -⟩ := represents.answerAll kept clock told known
    (fun other member => small other (last member))
    (fun other member => brought other (last member))
  refine ⟨replies, reply, s, w, t, v, ran, stepped, represents.tidy, next.tidy, fun name => ?_⟩
  rw [represents.tidy.goes_iff next.tidy]
  refine ⟨fun goes => ⟨?_, goes⟩, And.right⟩
  by_contra question
  have same : Bindings.afterStep (steps.foldl Bindings.afterStep Bindings.none) step = _ :=
    Bindings.afterStep_eq fun operation change => question ⟨operation, change⟩
  have still : t.Names name ↔ s.Names name := by
    rw [next.names_iff, represents.names_iff, List.foldl_cons, List.foldl_nil, same]
  exact goes.2 (still.mpr goes.1)

/-- A store in a missing directory takes a package, tags it, removes the first reference and
is opened again. The directory of the package goes when the second reference is removed. -/
theorem directories_named_probe :
    let home := spot Probe.before.working "store"
    let steps : List Step := [.ask (.change (.put "probe" Probe.package)),
      .ask (.change (.tag "probe" "other:v1")), .ask (.change (.remove "probe")), .reopen]
    let step : Step := .ask (.change (.remove "other:v1"))
    Runs (openAt "store") Probe.before (.ok Probe.store) Probe.world ∧
      ∃ replies reply s w t v,
        Operates (answerAll steps) Probe.store Probe.world (.ok replies) s w ∧
        Operates (answerAll [step]) s w (.ok reply) t v ∧
        Tidy home s w.tree ∧ Tidy home t v.tree ∧
        ∀ name,
          w.tree.node? (home ++ [shelfName, name]) = some .directory ∧
            v.tree.node? (home ++ [shelfName, name]) = none ↔
          (∃ operation, step = .ask (.change operation)) ∧ s.Names name ∧ ¬ t.Names name := by
  intro home steps step
  have only : ∀ p ∈ (steps ++ [step]).flatMap Step.packages, p = Probe.package :=
    fun _ => List.mem_singleton.mp
  exact ⟨Probe.opened, directories_named Probe.quiet Probe.standing Probe.direct Probe.fresh
    Probe.opened Probe.clock steps step (List.forall_mem_flatMap.mp (Probe.small only))
    (Package.told_of_only only)⟩

end PackageStore

end BpfDepot
