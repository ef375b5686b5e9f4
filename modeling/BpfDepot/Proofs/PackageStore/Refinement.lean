import BpfDepot.Proofs.PackageStore.Effects

/-! # A store answers as its map does

Each operation succeeds exactly if it has an effect on the map that the store
represents, and then the store represents the map after the effect
(`PackageStore.Represents.perform`). So after any calls a store that was opened in an empty
directory answers as the map does (`PackageStore.refines_bindings`).
-/

namespace BpfDepot.PackageStore

open FileTree World

variable {b : Bindings} {home : Location} {s : PackageStore} {w : World} {ps : List Package}

namespace Bindings

/-- What is held after an effect was held before it, or is brought by the operation. -/
theorem holds_of_effect {operation : Operation} {b' : Bindings} {q : Package}
    (effect : operation.effect b = some b') (holds : b'.Holds q) :
    b.Holds q ∨ q ∈ operation.packages := by
  cases operation with
  | put text p =>
      simp only [Operation.effect] at effect
      split at effect
      · obtain rfl := Option.some.inj effect
        rcases (holds_or_iff b _ _ q).mpr (Or.inl holds) with old | new
        · exact Or.inl old
        · exact Or.inr (List.mem_singleton.mpr (Option.some.inj new).symm)
      · cases effect
  | tag source target =>
      simp only [Operation.effect] at effect
      split at effect
      · next p key bound _ =>
        obtain rfl := Option.some.inj effect
        rcases (holds_or_iff b _ _ q).mpr (Or.inl holds) with old | new
        · exact Or.inl old
        · obtain rfl := Option.some.inj new
          exact Or.inl (holds_of_at? bound)
      · cases effect
  | remove text =>
      simp only [Operation.effect] at effect
      split at effect
      · split at effect
        · obtain rfl := Option.some.inj effect
          rcases (holds_or_iff b _ _ q).mpr (Or.inl holds) with old | new
          · exact Or.inl old
          · cases new
        · cases effect
      · cases effect

/-- What an operation brings is held after its effect. -/
theorem holds_of_packages {operation : Operation} {b' : Bindings} {q : Package}
    (effect : operation.effect b = some b') (brought : q ∈ operation.packages) : b'.Holds q := by
  cases operation with
  | put text p =>
      obtain rfl := List.mem_singleton.mp brought
      simp only [Operation.effect] at effect
      split at effect
      · obtain rfl := Option.some.inj effect
        exact ⟨_, set_self b _ _⟩
      · cases effect
  | tag source target => cases brought
  | remove text => cases brought

end Bindings

/-- **Effects.** An operation that has an effect on the map succeeds, and has it. -/
theorem Represents.perform_of_effect (represents : Represents b home s w)
    (told : Package.Told ps) (known : ∀ q, b.Holds q → q ∈ ps) {operation : Operation}
    (brought : ∀ p ∈ operation.packages, p ∈ ps) {b' : Bindings}
    (effect : operation.effect b = some b') :
    ∃ s' w', Operates operation.perform s w (.ok ()) s' w' ∧ Represents b' home s' w' := by
  obtain ⟨s', w', performed, left⟩ :=
    represents.views.perform_of_effect told known known brought effect
  refine ⟨s', w', performed, left.views.indexed, left.views.stocked.of_iff fun q => ?_⟩
  constructor
  · exact fun holds => ⟨Bindings.holds_of_effect effect holds, fun _ => holds⟩
  · exact fun ⟨either, stays⟩ => either.elim stays (Bindings.holds_of_packages effect)

/-! ## Runs -/

/-- Carries out operations one after the other, also when some of them fail, and gives
back what became of each. -/
def Operation.performAll (operations : List Operation) :
    StateT PackageStore WorldM (List (Except Error Unit)) :=
  operations.mapM fun operation => ExceptT.run operation.perform

theorem performAll_cons {operation : Operation} {rest : List Operation} {t s' : PackageStore}
    {v w' : World} {result : Except Error Unit} {results : List (Except Error Unit)}
    (stepped : Operates operation.perform s w result t v)
    (further : (Operation.performAll rest).run t v = ((results, s'), w')) :
    (Operation.performAll (operation :: rest)).run s w = ((result :: results, s'), w') := by
  have first : (ExceptT.run operation.perform : StateT PackageStore WorldM _) s w =
      ((result, t), v) := stepped
  unfold Operation.performAll at further ⊢
  simp only [StateT.run] at further
  rw [List.mapM_cons]
  simp only [StateT.run, Bind.bind, StateT.bind, first, further]
  rfl

namespace Bindings

/-- The map after an operation, which is the same map if the operation has no effect. -/
def after (b : Bindings) (operation : Operation) : Bindings := (operation.effect b).getD b

/-- Which of the operations that are carried out one after the other have an effect. -/
def allowed : Bindings → List Operation → List Bool
  | _, [] => []
  | b, operation :: rest => (operation.effect b).isSome :: (b.after operation).allowed rest

theorem holds_of_after {operation : Operation} {q : Package}
    (holds : (b.after operation).Holds q) : b.Holds q ∨ q ∈ operation.packages := by
  unfold after at holds
  cases effect : operation.effect b with
  | some b' =>
      rw [effect] at holds
      exact holds_of_effect effect holds
  | none =>
      rw [effect] at holds
      exact Or.inl holds

end Bindings

namespace Represents

/-- **Steps.** An operation succeeds exactly if it has an effect on the map, and the store
represents the map after it. -/
theorem perform (represents : Represents b home s w) (told : Package.Told ps)
    (known : ∀ q, b.Holds q → q ∈ ps) {operation : Operation}
    (brought : ∀ p ∈ operation.packages, p ∈ ps) :
    ∃ result s' w', Operates operation.perform s w result s' w' ∧
      result.isOk = (operation.effect b).isSome ∧ Represents (b.after operation) home s' w' := by
  cases effect : operation.effect b with
  | some b' =>
      obtain ⟨s', w', performed, next⟩ := represents.perform_of_effect told known brought effect
      refine ⟨_, s', w', performed, rfl, ?_⟩
      rwa [Bindings.after, effect]
  | none =>
      obtain ⟨error, performed⟩ := represents.indexed.perform_of_no_effect w effect
      refine ⟨_, s, w, performed, rfl, ?_⟩
      rwa [Bindings.after, effect]

/-- **Runs.** Operations succeed exactly if they have an effect on the map, and the store
represents the map after them. -/
theorem performAll (represents : Represents b home s w) (told : Package.Told ps)
    (known : ∀ q, b.Holds q → q ∈ ps) {operations : List Operation}
    (brought : ∀ operation ∈ operations, ∀ p ∈ operation.packages, p ∈ ps) :
    ∃ results s' w', (Operation.performAll operations).run s w = ((results, s'), w') ∧
      results.map Except.isOk = b.allowed operations ∧
      Represents (operations.foldl Bindings.after b) home s' w' := by
  induction operations generalizing b s w with
  | nil => exact ⟨[], s, w, rfl, rfl, represents⟩
  | cons operation rest ih =>
      have here := brought operation List.mem_cons_self
      obtain ⟨result, t, v, stepped, fits, next⟩ := represents.perform told known here
      have known' : ∀ q, (b.after operation).Holds q → q ∈ ps := fun q holds =>
        (Bindings.holds_of_after holds).elim (known q) (here q)
      obtain ⟨results, t', v', ran, allowed, last⟩ :=
        ih next known' fun other member => brought other (List.mem_cons_of_mem _ member)
      refine ⟨result :: results, t', v', performAll_cons stepped ran, ?_, last⟩
      rw [List.map_cons, fits, allowed, Bindings.allowed]

end Represents

/-- The handle answers every question as the map does. -/
structure Answers (b : Bindings) (s : PackageStore) (w : World) : Prop where
  /-- What refers to nothing is not found. -/
  unbound : ∀ text, b.at? text = none →
    s.get? text = none ∧ Runs (s.load text) w (.error (missing text)) w
  /-- What refers to a package is loaded as the package. -/
  loads : ∀ text p, b.at? text = some p → Runs (s.load text) w (.ok p) w
  /-- It has an entry that tells of the package. -/
  entries : ∀ text p, b.at? text = some p → ∃ entry, s.get? text = some entry ∧
    Reference.canonical text = .ok entry.reference ∧
    (∀ reference, ∃ staged, Exchange.stage reference p = .ok (staged, entry.digest)) ∧
    entry.size = p.program.size + p.configBytes.size ∧ entry.info = p.config.info

/-- A handle answers as its map does if the shelf has the packages of the map. -/
theorem Views.answers {shelf : Package → Prop} (views : Views b shelf home s w)
    (held : ∀ q, b.Holds q → shelf q) : Answers b s w := by
  constructor
  · intro text unbound
    have absent := views.indexed.get?_of_none unbound
    refine ⟨absent, ?_⟩
    unfold load
    rw [absent]
    exact Runs.throw _ _
  · intro text p bound
    obtain ⟨key, entry, -, there, found, described⟩ := views.indexed.get?_of_some bound
    unfold load
    rw [found]
    simp only [described.path]
    exact views.stocked.readPackage_of_held (held p ⟨key, there⟩)
  · intro text p bound
    obtain ⟨key, entry, canonical, -, found, described⟩ := views.indexed.get?_of_some bound
    refine ⟨entry, found, described.reference ▸ canonical, fun reference => ?_, ?_,
      described.info⟩
    · rw [described.digest]
      exact Exchange.stage_eq reference p
    · rw [described.size, Package.size]

/-- A store that represents a map answers as the map does. -/
theorem Represents.answers (represents : Represents b home s w) : Answers b s w :=
  represents.views.answers fun _ => id

/-- **Refinement.** Where nothing stands below the place of its directory a store is
opened that answers as the empty map does. After any operations it answers as the map after
them, and the operations that succeed are those that have an effect on the map, if digests
tell apart the byte strings of the packages that the operations bring. -/
theorem refines_bindings {directory : String} {before world : World} {store : PackageStore}
    (quiet : before.Quiet) (standing : before.tree.node? before.working = some .directory)
    (direct : Direct before.working directory)
    (fresh : before.tree.Bare (spot before.working directory))
    (opened : Runs (openAt directory) before (.ok store) world) (operations : List Operation)
    (told : Package.Told (operations.flatMap Operation.packages)) :
    ∃ results s w, (Operation.performAll operations).run store world = ((results, s), w) ∧
      results.map Except.isOk = Bindings.none.allowed operations ∧
      Answers (operations.foldl Bindings.after Bindings.none) s w := by
  have represents := represents_of_openAt quiet standing direct fresh opened
  have brought (operation : Operation) (member : operation ∈ operations) (p : Package)
      (one : p ∈ operation.packages) : p ∈ operations.flatMap Operation.packages :=
    List.mem_flatMap.mpr ⟨operation, member, one⟩
  obtain ⟨results, s, w, ran, allowed, after⟩ := represents.performAll told
    (fun q holds => absurd holds (Bindings.not_holds_none q)) brought
  exact ⟨results, s, w, ran, allowed, after.answers⟩

/-- A store in a missing directory takes a package, tags it, removes its first reference,
and does not find that again. -/
theorem refines_bindings_probe :
    let operations : List Operation :=
      [.put "probe" Probe.package, .tag "probe" "other:v1", .remove "probe", .remove "probe"]
    Runs (openAt "store") Probe.before (.ok Probe.store) Probe.world ∧
      ∃ results s w,
        (Operation.performAll operations).run Probe.store Probe.world = ((results, s), w) ∧
        results.map Except.isOk = [true, true, true, false] ∧
        Answers (operations.foldl Bindings.after Bindings.none) s w := by
  intro operations
  have told : Package.Told (operations.flatMap Operation.packages) :=
    Package.told_of_only fun _ => List.mem_singleton.mp
  have allowed : Bindings.none.allowed operations = [true, true, true, false] := rfl
  rw [← allowed]
  exact ⟨Probe.opened, refines_bindings Probe.quiet Probe.standing Probe.direct Probe.fresh
    Probe.opened operations told⟩

end BpfDepot.PackageStore
