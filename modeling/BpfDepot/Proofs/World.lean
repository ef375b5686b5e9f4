import BpfDepot.World
import BpfDepot.Proofs.FileTree.Calls

/-! # Steps in a world

A step runs in a world with a result and leaves a world (`World.Runs`). Runs are put
together from the runs of their parts. A world is quiet when none of its next calls is
broken off; there a call does to the tree what the tree says (`World.Runs.attempt`).
-/

namespace BpfDepot.World

variable {ε α β : Type} {w w' w'' : World}

/-- A step has a result in a world and leaves another world. -/
def Runs (step : ExceptT ε WorldM α) (w : World) (result : Except ε α) (w' : World) : Prop :=
  step.run.run w = (result, w')

/-- None of the next calls is broken off. -/
def Quiet (w : World) : Prop := w.interruptions = []

/-- The world when no call is broken off any more. -/
def calm (w : World) : World := { w with interruptions := [] }

theorem quiet_calm (w : World) : w.calm.Quiet := rfl

namespace Runs

theorem pure (a : α) (w : World) : Runs (Pure.pure a : ExceptT ε WorldM α) w (.ok a) w := rfl

theorem throw (fault : ε) (w : World) :
    Runs (MonadExcept.throw fault : ExceptT ε WorldM α) w (.error fault) w := rfl

/-- After a step that succeeds the next step runs in the world that it leaves. -/
theorem bind {step : ExceptT ε WorldM α} {next : α → ExceptT ε WorldM β} {a : α}
    {result : Except ε β} (first : Runs step w (.ok a) w') (second : Runs (next a) w' result w'') :
    Runs (step >>= next) w result w'' := by
  change (step >>= next) w = _
  have stepped : step w = (Except.ok a, w') := first
  simp only [Bind.bind, ExceptT.bind, ExceptT.mk, StateT.bind, stepped]
  exact second

theorem bind_error {step : ExceptT ε WorldM α} (next : α → ExceptT ε WorldM β) {fault : ε}
    (first : Runs step w (.error fault) w') : Runs (step >>= next) w (.error fault) w' := by
  change (step >>= next) w = _
  have stepped : step w = (Except.error fault, w') := first
  simp only [Bind.bind, ExceptT.bind, ExceptT.mk, StateT.bind, stepped]
  rfl

theorem unique {step : ExceptT ε WorldM α} {result other : Except ε α} {v : World}
    (first : Runs step w result w') (second : Runs step w other v) :
    other = result ∧ v = w' := by
  cases (Eq.symm first).trans second
  exact ⟨rfl, rfl⟩

theorem total (step : ExceptT ε WorldM α) (w : World) : ∃ result w', Runs step w result w' :=
  ⟨_, _, rfl⟩

/-- Two steps fail in the first one, or the second one runs in the world that the first
one leaves. -/
theorem bind_cases {step : ExceptT ε WorldM α} {next : α → ExceptT ε WorldM β}
    {result : Except ε β} (whole : Runs (step >>= next) w result w'') :
    (∃ fault, Runs step w (.error fault) w'' ∧ result = .error fault) ∨
      ∃ a w', Runs step w (.ok a) w' ∧ Runs (next a) w' result w'' := by
  obtain ⟨outcome, v, first⟩ := total step w
  cases outcome with
  | error fault =>
      obtain ⟨rfl, rfl⟩ := (bind_error next first).unique whole
      exact Or.inl ⟨fault, first, rfl⟩
  | ok a =>
      obtain ⟨result', v', second⟩ := total (next a) v
      obtain ⟨rfl, rfl⟩ := (bind first second).unique whole
      exact Or.inr ⟨a, v, first, second⟩

theorem of_bind_ok {step : ExceptT ε WorldM α} {next : α → ExceptT ε WorldM β} {b : β}
    (whole : Runs (step >>= next) w (.ok b) w'') :
    ∃ a w', Runs step w (.ok a) w' ∧ Runs (next a) w' (.ok b) w'' :=
  (bind_cases whole).resolve_left fun ⟨_, _, same⟩ => nomatch same

theorem rest {step : ExceptT ε WorldM α} {next : α → ExceptT ε WorldM β} {a : α}
    {result : Except ε β} (first : Runs step w (.ok a) w')
    (whole : Runs (step >>= next) w result w'') : Runs (next a) w' result w'' := by
  obtain ⟨other, v, second⟩ := total (next a) w'
  obtain ⟨rfl, rfl⟩ := (first.bind second).unique whole
  exact second

theorem lift {step : WorldM α} {a : α} (answered : step w = (a, w')) :
    Runs (liftM step : ExceptT ε WorldM α) w (.ok a) w' := by
  change (ExceptT.lift step) w = _
  simp only [ExceptT.lift, ExceptT.mk, Functor.map, StateT.map, answered]
  rfl

theorem explain {step : ExceptT FileFault WorldM α} {a : α} (runs : Runs step w (.ok a) w')
    (word : FileFault → Error) : Runs (Files.explain step word) w (.ok a) w' := by
  change (Files.explain step word) w = _
  have stepped : step w = (Except.ok a, w') := runs
  simp only [Files.explain, ExceptT.mk, ExceptT.run, Bind.bind, StateT.bind, stepped]
  rfl

/-- A step that is explained runs as the step, but for its failure. -/
theorem of_explain {step : ExceptT FileFault WorldM α} {word : FileFault → Error}
    {result : Except Error α} (runs : Runs (Files.explain step word) w result w') :
    ∃ outcome, Runs step w outcome w' ∧ result = outcome.mapError word := by
  obtain ⟨outcome, v, stepped⟩ := Runs.total step w
  have stepped' : step w = (outcome, v) := stepped
  have runs' : (Files.explain step word) w = (result, w') := runs
  simp only [Files.explain, ExceptT.mk, ExceptT.run, Bind.bind, StateT.bind, stepped'] at runs'
  cases outcome <;> cases runs' <;> exact ⟨_, stepped, rfl⟩

theorem explain_error {step : ExceptT FileFault WorldM α} {fault : FileFault}
    (runs : Runs step w (.error fault) w') (word : FileFault → Error) :
    Runs (Files.explain step word) w (.error (word fault)) w' := by
  obtain ⟨result, v, explained⟩ := total (Files.explain step word) w
  obtain ⟨outcome, stepped, rfl⟩ := explained.of_explain
  obtain ⟨rfl, rfl⟩ := runs.unique stepped
  exact explained

theorem of_explain_ok {step : ExceptT FileFault WorldM α} {word : FileFault → Error} {a : α}
    (runs : Runs (Files.explain step word) w (.ok a) w') : Runs step w (.ok a) w' := by
  obtain ⟨outcome, stepped, same⟩ := runs.of_explain
  cases outcome with
  | error fault => cases same
  | ok b =>
      obtain rfl := Except.ok.inj same
      exact stepped

/-- **Calls.** In a quiet world a call does what the tree says. -/
theorem attempt {request : FileCall α} {tree : FileTree} {result : Except FileFault α}
    (quiet : w.Quiet) (called : w.tree.call w.working request = (tree, result)) :
    Runs (Files.attempt request) w result { w with tree } := by
  have undisturbed : w.interruptions = [] := quiet
  change World.call request w = _
  simp only [World.call, undisturbed, called]

/-- A call that succeeds has not been broken off, and has done what the tree says. -/
theorem of_attempt_ok {request : FileCall α} {a : α}
    (done : Runs (Files.attempt request) w (.ok a) w') :
    w.tree.call w.working request = (w'.tree, .ok a) ∧ w'.working = w.working := by
  have called : World.call request w = (.ok a, w') := done
  unfold World.call at called
  split at called
  · obtain ⟨outcome, rfl⟩ := Prod.mk.inj called
    exact ⟨Prod.ext rfl outcome, rfl⟩
  · obtain ⟨outcome, rfl⟩ := Prod.mk.inj called
    exact ⟨Prod.ext rfl outcome, rfl⟩
  · cases (Prod.mk.inj called).1

/-- Moving something that fails leaves the tree as it is. -/
theorem of_rename_error {source target : String} {fault : FileFault}
    (failed : Runs (Files.attempt (.rename source target)) w (.error fault) w') :
    w'.tree = w.tree ∧ w'.working = w.working := by
  have called : World.call (.rename source target) w = (.error fault, w') := failed
  have kept (result : Except FileFault FileTree)
      (stopped : (w.tree.changed result).2 = .error fault) :
      (w.tree.changed result).1 = w.tree := by
    cases result with
    | ok tree => cases stopped
    | error other => rfl
  unfold World.call at called
  split at called
  all_goals
    obtain ⟨outcome, rfl⟩ := Prod.mk.inj called
  · exact ⟨kept _ outcome, rfl⟩
  · exact ⟨kept _ outcome, rfl⟩
  · exact ⟨rfl, rfl⟩

end Runs

theorem bind_eq {step : WorldM α} {a : α} (stepped : step w = (a, w')) (next : α → WorldM β) :
    (step >>= next) w = next a w' := by
  change StateT.bind step next w = _
  rw [StateT.bind, stepped]
  rfl

theorem isPresent_eq (path : String) (w : World) :
    (Files.isPresent path : WorldM Bool) w = ((w.tree.kind? w.working path).isSome, w) := rfl

theorem isFile_eq (path : String) (w : World) :
    (Files.isFile path : WorldM Bool) w =
      (decide (w.tree.kind? w.working path = some .file), w) := rfl

/-! ## What steps keep -/

/-- A step keeps a property of the tree and the working directory, also when it fails. -/
def Keeps (I : FileTree → Location → Prop) (step : ExceptT ε WorldM α) : Prop :=
  ∀ w result w', I w.tree w.working → Runs step w result w' → I w'.tree w'.working

namespace Keeps

variable {I : FileTree → Location → Prop}

theorem pure (a : α) : Keeps I (Pure.pure a : ExceptT ε WorldM α) := by
  intro w result w' before runs
  obtain ⟨-, rfl⟩ := (Runs.pure a w).unique runs
  exact before

theorem throw (fault : ε) : Keeps I (MonadExcept.throw fault : ExceptT ε WorldM α) := by
  intro w result w' before runs
  obtain ⟨-, rfl⟩ := (Runs.throw fault w).unique runs
  exact before

/-- Steps that keep a property keep it one after the other. -/
theorem bind {step : ExceptT ε WorldM α} {next : α → ExceptT ε WorldM β} (first : Keeps I step)
    (second : ∀ a, Keeps I (next a)) : Keeps I (step >>= next) := by
  intro w result w' before runs
  rcases Runs.bind_cases runs with ⟨fault, failed, -⟩ | ⟨a, v, done, further⟩
  · exact first _ _ _ before failed
  · exact second a _ _ _ (first _ _ _ before done) further

theorem lift {step : WorldM α}
    (still : ∀ w, (step w).2.tree = w.tree ∧ (step w).2.working = w.working) :
    Keeps I (liftM step : ExceptT ε WorldM α) := by
  intro w result w' before runs
  have answered : step w = ((step w).1, (step w).2) := rfl
  obtain ⟨-, rfl⟩ := (Runs.lift answered).unique runs
  rw [(still w).1, (still w).2]
  exact before

theorem isPresent (path : String) :
    Keeps I (liftM (Files.isPresent path : WorldM Bool) : ExceptT ε WorldM Bool) :=
  lift fun _ => ⟨rfl, rfl⟩

theorem explain {step : ExceptT FileFault WorldM α} (kept : Keeps I step)
    (word : FileFault → Error) : Keeps I (Files.explain step word) := by
  intro w result w' before runs
  obtain ⟨outcome, stepped, -⟩ := runs.of_explain
  exact kept _ _ _ before stepped

/-- **Calls.** A call keeps a property if its effect does, also when it is broken off. -/
theorem attempt {request : FileCall α}
    (whole : ∀ t working, I t working → I (t.call working request).1 working)
    (part : ∀ t working steps, I t working → I (t.brokenOff working steps request) working) :
    Keeps I (Files.attempt request) := by
  intro w result w' before runs
  have called : World.call request w = (result, w') := runs
  have left : w' = (World.call request w).2 := by rw [called]
  rw [left]
  unfold World.call
  split
  · exact whole _ _ before
  · exact whole _ _ before
  · exact part _ _ _ before

/-- Reading a file keeps everything. -/
theorem read (path : String) : Keeps I (Files.attempt (.read path)) :=
  attempt (fun _ _ kept => kept) fun _ _ _ kept => kept

/-- Filtering a list by steps that keep a property keeps it. -/
theorem filterM {test : α → ExceptT ε WorldM Bool} (each : ∀ a, Keeps I (test a)) (as : List α) :
    Keeps I (as.filterM test) := by
  have aux (as passed : List α) : Keeps I (as.filterAuxM test passed) := by
    induction as generalizing passed with
    | nil => exact pure _
    | cons a as ih => exact (each a).bind fun _ => ih _
  exact (aux as []).bind fun _ => pure _

end Keeps

end BpfDepot.World
