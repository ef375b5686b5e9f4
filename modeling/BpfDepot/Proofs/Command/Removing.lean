import BpfDepot.Proofs.Command.Steps
import BpfDepot.Proofs.PackageStore.Recovery

/-! # Removing one reference after another

A command that removes packages opens the store, removes its references one after the other
(`Command.Removing`) and says at the end which of them could not be removed, and why
(`Command.runs_runRemove`). When it is to pass over them it fails only if the store cannot be
opened, and so it also passes over references that are stored and stay behind with half of
their removal done (`Command.stuck_passed_over`).
-/

namespace BpfDepot.Command

open World PackageStore

variable {settings : Settings} {text key : String} {texts references : List String}
  {force : Bool} {s s' t t' : PackageStore} {w w' u u' v : World} {entry : StoredPackage}
  {error : Error} {result : Except Error Unit} {results : List (String × Except Error Unit)}

/-! ## Removals -/

/-- The world in which a removal has been told of. Only a success is printed. -/
def told (text : String) (result : Except Error Unit) (w : World) : World :=
  match result with
  | .ok () => { w with output := w.output ++ ("Removed: " ++ text ++ "\n") }
  | .error _ => w

/-- References are removed one after the other, each with a result. What one of them leaves is
there for the next one, also after a failure. -/
inductive Removing : List String → PackageStore → World → List (String × Except Error Unit) →
    PackageStore → World → Prop
  | nil (s : PackageStore) (w : World) : Removing [] s w [] s w
  | cons {text : String} {texts : List String} {s t s' : PackageStore} {w v w' : World}
      {result : Except Error Unit} {results : List (String × Except Error Unit)}
      (first : Operates (PackageStore.remove text) s w result t v)
      (rest : Removing texts t (told text result v) results s' w') :
      Removing (text :: texts) s w ((text, result) :: results) s' w'

theorem Removing.total (texts : List String) (s : PackageStore) (w : World) :
    ∃ results s' w', Removing texts s w results s' w' := by
  induction texts generalizing s w with
  | nil => exact ⟨[], s, w, .nil s w⟩
  | cons text texts ih =>
      obtain ⟨result, t, v, first⟩ := Operates.total (PackageStore.remove text) s w
      obtain ⟨results, s', w', rest⟩ := ih t (told text result v)
      exact ⟨_, s', w', .cons first rest⟩

/-- What is said of a removal, if it failed. -/
def complaint? : String × Except Error Unit → Option String
  | (_, .ok ()) => none
  | (text, .error error) => some (text ++ ": " ++ error.message)

theorem complaint?_eq_none_iff {removal : String × Except Error Unit} :
    complaint? removal = none ↔ removal.2 = .ok () := by
  obtain ⟨text, result⟩ := removal
  cases result with
  | error error => exact ⟨nofun, nofun⟩
  | ok _ => exact ⟨fun _ => rfl, fun _ => rfl⟩

/-- The messages of removals are what is said of them, unless they are passed over. -/
theorem removeAll_of_removing (force : Bool) (removing : Removing texts s w results s' w') :
    (removeAll force texts s : WorldM (List String)) w =
      (if force then [] else results.filterMap complaint?, w') := by
  induction removing with
  | nil s w => cases force <;> rfl
  | @cons text texts s t s' w v w' result results first rest ih =>
      have stepped : (PackageStore.remove text : StoreM WorldM Unit) s w = ((result, t), v) := first
      cases result with
      | ok _ =>
          rw [List.filterMap_cons_none rfl, ← ih]
          simp only [removeAll, ExceptT.run, StateT.run, Bind.bind, StateT.bind, stepped]
          rfl
      | error error =>
          have further : (removeAll force texts t : WorldM (List String)) v = _ := ih
          have said : complaint? (text, .error error) = some (text ++ ": " ++ error.message) := rfl
          rw [List.filterMap_cons_some said]
          simp only [removeAll, ExceptT.run, StateT.run, Bind.bind, StateT.bind, stepped, further]
          cases force <;> rfl

/-! ## The command -/

/-- The failure that says what is to be said of removals. -/
def complaint (results : List (String × Except Error Unit)) : Failure :=
  .text ("Failed to remove package(s):\n" ++ "\n".intercalate (results.filterMap complaint?))

/-- What comes of removals. -/
def verdict (force : Bool) (results : List (String × Except Error Unit)) : Except Failure Unit :=
  if force = true ∨ results.filterMap complaint? = [] then .ok () else .error (complaint results)

theorem verdict_eq_ok_iff :
    verdict force results = .ok () ↔ force = true ∨ results.filterMap complaint? = [] := by
  unfold verdict
  split <;> simp_all

theorem eq_of_verdict_eq_error {failure : Failure}
    (failed : verdict force results = .error failure) : failure = complaint results := by
  unfold verdict at failed
  split at failed
  · cases failed
  · exact (Except.error.inj failed).symm

/-- **Removing.** When the store has been opened the references are removed one after the other,
and what comes of it is told by their results. -/
theorem runs_runRemove (force : Bool) (opened : Runs (openStore settings) w (.ok s) v)
    (removing : Removing references s v results s' w') :
    Runs (runRemove settings references force) w (verdict force results) w' := by
  have removed := runs_always (removeAll_of_removing force removing)
  refine opened.bind (removed.bind ?_)
  unfold verdict
  by_cases done : force = true ∨ results.filterMap complaint? = []
  · have silent : (if force then [] else results.filterMap complaint?) = [] := by
      rcases done with rfl | none
      · rfl
      · rw [none, ite_self]
    rw [silent, if_pos done]
    exact .pure () w'
  · rw [not_or] at done
    rw [if_neg done.1, if_pos done.2, if_neg (not_or.mpr done)]
    exact .throw _ w'

theorem runs_runRemove_of_error {failure : Failure}
    (unopened : Runs (openStore settings) w (.error failure) v) :
    Runs (runRemove settings references force) w (.error failure) v :=
  unopened.bind_error _

/-! ## Passing over failures -/

/-- The store is opened, and when the turn of a reference comes that is stored then, it cannot be
removed. -/
inductive Stuck (settings : Settings) (w : World) : List String → Prop
  | intro {earlier later : List String} {text : String} {s t t' : PackageStore} {v u u' : World}
      {results : List (String × Except Error Unit)} {entry : StoredPackage} {error : Error}
      (opened : Runs (openStore settings) w (.ok s) v)
      (before : Removing earlier s v results t u) (stored : t.get? text = some entry)
      (failed : Operates (PackageStore.remove text) t u (.error error) t' u') :
      Stuck settings w (earlier ++ text :: later)

/-- A reference that is stored cannot be removed only because the directory of its package cannot
be removed, or because the index cannot be written. -/
theorem cause_of_stored (stored : t.get? text = some entry)
    (failed : Operates (PackageStore.remove text) t u (.error error) t' u') :
    Runs (clearUnused t' entry) u (.error error) u' ∨
      ∃ v, Runs (clearUnused t' entry) u (.ok ()) v ∧ Runs (writeIndex t') v (.error error) u' := by
  have performed : Operates (Operation.remove text).perform t u (.error error) t' u' := failed
  obtain ⟨key, canonical, bound⟩ := canonical_of_get? stored
  have prepared := Operation.prepare_remove (w := u) canonical bound
  rcases Operation.failure_cases performed with ⟨early, -⟩ | ⟨change, v, other, rfl, broken⟩
  · exact nomatch (prepared.unique early).1
  · obtain ⟨same, -, rfl⟩ := prepared.unique other
    obtain rfl := Except.ok.inj same
    rcases Runs.bind_cases broken with ⟨fault, failed, same⟩ | ⟨_, v, cleared, written⟩
    · obtain rfl := Except.error.inj same
      exact Or.inl failed
    · exact Or.inr ⟨v, cleared, written⟩

/-- **Forgiveness.** A command that is to pass over failures fails only if the store cannot be
opened, and otherwise the turn of every reference comes. So it does not tell of a reference that
is stored and cannot be removed: that it fails then holds only as long as there is none. -/
theorem stuck_passed_over (settings : Settings) (references : List String) (w : World) :
    ∃ result w', Runs (runRemove settings references true) w result w' ∧
      (result = .ok () ↔ ∃ s v, Runs (openStore settings) w (.ok s) v) ∧
      (∀ s v, Runs (openStore settings) w (.ok s) v →
        ∃ results t, Removing references s v results t w') ∧
      ((Stuck settings w references → ∃ failure, result = .error failure) ↔
        ¬ Stuck settings w references) := by
  obtain ⟨outcome, v, opening⟩ := Runs.total (openStore settings) w
  cases outcome with
  | error failure =>
      have unopened (s : PackageStore) (u : World) : ¬ Runs (openStore settings) w (.ok s) u :=
        fun opened => nomatch (opening.unique opened).1
      refine ⟨_, v, runs_runRemove_of_error opening,
        ⟨nofun, fun ⟨s, u, opened⟩ => absurd opened (unopened s u)⟩,
        fun s u opened => absurd opened (unopened s u),
        fun _ stuck => ?_, fun _ _ => ⟨failure, rfl⟩⟩
      cases stuck with
      | intro opened => exact unopened _ _ opened
  | ok s =>
      obtain ⟨results, s', w', removing⟩ := Removing.total references s v
      refine ⟨_, w', runs_runRemove true opening removing, iff_of_true rfl ⟨s, v, opening⟩,
        fun t u opened => ?_, fun said stuck => ?_, fun apart stuck => absurd stuck apart⟩
      · obtain ⟨same, rfl⟩ := opening.unique opened
        obtain rfl := Except.ok.inj same
        exact ⟨results, s', removing⟩
      · obtain ⟨failure, failed⟩ := said stuck
        cases failed

/-- The store whose index cannot be written is opened with its only entry. -/
theorem runs_openAt_blocked :
    Runs (openAt "s") Blocked.world (.ok Blocked.store) Blocked.world := by
  have opened := openAt_of_filed Blocked.at_home rfl Blocked.filed
  have same : indexOf Blocked.world [Blocked.entry] = Blocked.store.index := by decide +kernel
  rw [same] at opened
  exact opened

/-- A command that is to pass over failures succeeds although it has removed a package that is
stored, and has left it in the index. -/
theorem stuck_forgiven : ∃ settings references w w', Stuck settings w references ∧
    Runs (runRemove settings references true) w (.ok ()) w' := by
  let settings : Settings := { storeDirectory := some "s" }
  have opened : Runs (openStore settings) Blocked.world (.ok Blocked.store) Blocked.world :=
    runs_openStore rfl runs_openAt_blocked
  have failed : Operates (PackageStore.remove "h.io/a:v") Blocked.store Blocked.world
      (.error (.io .isDirectory)) Blocked.emptied Blocked.cleared := Blocked.operates_remove
  have canonical : Reference.canonical "h.io/a:v" = .ok "h.io/a:v" := rfl
  have stored : Blocked.store.get? "h.io/a:v" = some Blocked.entry :=
    (get?_of_canonical canonical _).trans rfl
  exact ⟨settings, [] ++ "h.io/a:v" :: [], Blocked.world, Blocked.cleared,
    .intro opened (.nil _ _) stored failed, runs_runRemove true opened (.cons failed (.nil _ _))⟩

end BpfDepot.Command
