import BpfDepot.PackageStore
import BpfDepot.Proofs.Dictionary
import BpfDepot.Proofs.Package
import BpfDepot.Proofs.World

/-! # Operations in two steps

Putting, tagging and removing have one shape. First a change of the index is prepared,
while the handle stays as it is; then the change is committed
(`PackageStore.Operation.perform_eq`). An operation that fails while it prepares leaves
the handle as it was, and one that fails later leaves it with the changed index
(`PackageStore.Operation.failure_cases`).
-/

namespace BpfDepot.PackageStore

/-! ## Runs of operations -/

section Operates

variable {α β : Type} {s s' s'' : PackageStore} {w w' w'' : World}

/-- An operation on a handle has a result in a world and leaves a handle and a world. -/
def Operates (operation : StoreM WorldM α) (s : PackageStore) (w : World)
    (result : Except Error α) (s' : PackageStore) (w' : World) : Prop :=
  (operation.run.run s).run w = ((result, s'), w')

namespace Operates

theorem pure (a : α) (s : PackageStore) (w : World) : Operates (Pure.pure a) s w (.ok a) s w := rfl

theorem throw (error : Error) (s : PackageStore) (w : World) :
    Operates (MonadExcept.throw error : StoreM WorldM α) s w (.error error) s w := rfl

theorem get (s : PackageStore) (w : World) :
    Operates (MonadState.get : StoreM WorldM PackageStore) s w (.ok s) s w := rfl

theorem liftExcept (value : Except Error α) (s : PackageStore) (w : World) :
    Operates (liftM value) s w value s w := by
  cases value <;> rfl

theorem modifyIndex (index : Dictionary StoredPackage) (s : PackageStore) (w : World) :
    Operates (modify fun s => { s with index }) s w (.ok ()) { s with index } w := rfl

/-- A step that does not concern the handle leaves it as it is. -/
theorem outside {step : ExceptT Error WorldM α} {result : Except Error α}
    (runs : World.Runs step w result w') (s : PackageStore) :
    Operates (PackageStore.outside step) s w result s w' := by
  change (PackageStore.outside step) s w = _
  have stepped : step w = (result, w') := runs
  simp only [PackageStore.outside, ExceptT.mk, StateT.lift, ExceptT.run, Bind.bind, StateT.bind,
    stepped]
  rfl

/-- After a step that succeeds the next step goes on from what it leaves. -/
theorem bind {step : StoreM WorldM α} {next : α → StoreM WorldM β} {a : α}
    {result : Except Error β} (first : Operates step s w (.ok a) s' w')
    (second : Operates (next a) s' w' result s'' w'') :
    Operates (step >>= next) s w result s'' w'' := by
  change (step >>= next) s w = _
  have stepped : step s w = ((Except.ok a, s'), w') := first
  simp only [Bind.bind, ExceptT.bind, ExceptT.mk, StateT.bind, stepped]
  exact second

theorem bind_error {step : StoreM WorldM α} (next : α → StoreM WorldM β) {error : Error}
    (first : Operates step s w (.error error) s' w') :
    Operates (step >>= next) s w (.error error) s' w' := by
  change (step >>= next) s w = _
  have stepped : step s w = ((Except.error error, s'), w') := first
  simp only [Bind.bind, ExceptT.bind, ExceptT.mk, StateT.bind, stepped]
  rfl

theorem unique {operation : StoreM WorldM α} {result other : Except Error α} {t : PackageStore}
    {v : World} (first : Operates operation s w result s' w')
    (second : Operates operation s w other t v) : other = result ∧ t = s' ∧ v = w' := by
  cases (Eq.symm first).trans second
  exact ⟨rfl, rfl, rfl⟩

theorem total (operation : StoreM WorldM α) (s : PackageStore) (w : World) :
    ∃ result s' w', Operates operation s w result s' w' := ⟨_, _, _, rfl⟩

/-- Two steps fail in the first one, or the second one goes on from what the first one
leaves. -/
theorem bind_cases {step : StoreM WorldM α} {next : α → StoreM WorldM β}
    {result : Except Error β} (whole : Operates (step >>= next) s w result s'' w'') :
    (∃ error, Operates step s w (.error error) s'' w'' ∧ result = .error error) ∨
      ∃ a s' w', Operates step s w (.ok a) s' w' ∧ Operates (next a) s' w' result s'' w'' := by
  obtain ⟨outcome, t, v, first⟩ := total step s w
  cases outcome with
  | error error =>
      obtain ⟨rfl, rfl, rfl⟩ := (bind_error next first).unique whole
      exact Or.inl ⟨error, first, rfl⟩
  | ok a =>
      obtain ⟨result', t', v', second⟩ := total (next a) t v
      obtain ⟨rfl, rfl, rfl⟩ := (bind first second).unique whole
      exact Or.inr ⟨a, t, v, first, second⟩

theorem rest {step : StoreM WorldM α} {next : α → StoreM WorldM β} {a : α}
    {result : Except Error β} (first : Operates step s w (.ok a) s' w')
    (whole : Operates (step >>= next) s w result s'' w'') :
    Operates (next a) s' w' result s'' w'' := by
  obtain ⟨other, t, v, second⟩ := total (next a) s' w'
  obtain ⟨rfl, rfl, rfl⟩ := (first.bind second).unique whole
  exact second

end Operates

/-- The operation leaves the handle as it is, also when it fails. -/
def Steady (operation : StoreM WorldM α) : Prop :=
  ∀ s w result s' w', Operates operation s w result s' w' → s' = s

namespace Steady

theorem pure (a : α) : Steady (Pure.pure a) :=
  fun s w _ _ _ runs => ((Operates.pure a s w).unique runs).2.1

theorem throw (error : Error) : Steady (MonadExcept.throw error : StoreM WorldM α) :=
  fun s w _ _ _ runs => ((Operates.throw error s w).unique runs).2.1

theorem get : Steady MonadState.get :=
  fun s w _ _ _ runs => ((Operates.get s w).unique runs).2.1

/-- Steps that leave the handle as it is do so one after the other. -/
theorem bind {step : StoreM WorldM α} {next : α → StoreM WorldM β} (first : Steady step)
    (second : ∀ a, Steady (next a)) : Steady (step >>= next) := by
  intro s w result s' w' runs
  rcases Operates.bind_cases runs with ⟨error, failed, -⟩ | ⟨a, t, v, done, further⟩
  · exact first _ _ _ _ _ failed
  · exact (second a _ _ _ _ _ further).trans (first _ _ _ _ _ done)

theorem keyOf (reference : String) : Steady (PackageStore.keyOf reference) := by
  unfold PackageStore.keyOf
  split
  · exact pure _
  · exact throw _

end Steady

end Operates

theorem keyOf_of_ok {reference key : String} (canonical : Reference.canonical reference = .ok key)
    (s : PackageStore) (w : World) : Operates (keyOf reference) s w (.ok key) s w := by
  unfold keyOf
  rw [canonical]
  exact Operates.pure key s w

theorem keyOf_of_error {reference : String} {fault : Reference.Fault}
    (canonical : Reference.canonical reference = .error fault) (s : PackageStore) (w : World) :
    Operates (keyOf reference) s w (.error (.invalidReference fault.message)) s w := by
  unfold keyOf
  rw [canonical]
  exact Operates.throw _ s w

/-! ## Preparing a change -/

section Preparing

variable {m : Type → Type} [Monad m] [Host m]

/-- Puts a package in its directory, unless it is complete there. -/
def shelve (directory : String) (p : Package) : ExceptT Error m Unit := do
  let path := packagePath directory p.digest
  if !(← isComplete (m := m) path) then
    Files.explain (writePackage path p) fun fault =>
      .store ("Failed to write package to " ++ path ++ ": " ++ fault.message)

/-- The entry of a package under a key. -/
def entryOf (directory key : String) (p : Package) (created : Instant) : StoredPackage where
  reference := key
  digest := p.digest
  size := p.program.size + p.configBytes.size
  info := p.config.info
  created := created
  path := packagePath directory p.digest

/-- The entry of a package that is being put; the package is in its directory. -/
def newEntry (reference : String) (package : Package) : StoreM m StoredPackage := do
  let key ← keyOf reference
  let (_, digest) ← Exchange.stage key package
  let path := packagePath (← get).directory digest
  if !(← outside (isComplete (m := m) path)) then
    outside (Files.explain (writePackage path package) fun fault =>
      .store ("Failed to write package to " ++ path ++ ": " ++ fault.message))
  return {
    reference := key, digest
    size := package.program.size + package.configBytes.size
    info := package.config.info
    created := ← outside (Host.now (m := m))
    path }

/-- The entry of a package that is being tagged. -/
def copyEntry (source target : String) : StoreM m StoredPackage := do
  match (← get).get? source with
  | none => throw (missing source)
  | some entry =>
    return { entry with
      reference := ← keyOf target
      created := ← outside (Host.now (m := m)) }

/-- A change of the index. -/
structure Change where
  /-- The index after the change. -/
  index : Dictionary StoredPackage
  /-- The entry that the change replaces or removes. -/
  replaced : Option StoredPackage
  /-- The entry that the change binds. -/
  bound : Option StoredPackage

/-- The change that binds the reference of an entry to it. -/
def Change.binding (s : PackageStore) (entry : StoredPackage) : Change where
  index := s.index.insert entry.reference entry
  replaced := s.index.get? entry.reference
  bound := some entry

/-- The operations that change a store. -/
inductive Operation where
  | put (reference : String) (package : Package)
  | tag (source target : String)
  | remove (reference : String)

namespace Operation

/-- The text whose reference an operation binds or unbinds. -/
def subject : Operation → String
  | .put reference _ => reference
  | .tag _ target => target
  | .remove reference => reference

/-- Carries out an operation. -/
def perform : Operation → StoreM m Unit
  | .put reference package => do
    let _ ← PackageStore.put reference package
    return ()
  | .tag source target => do
    let _ ← PackageStore.tag source target
    return ()
  | .remove reference => PackageStore.remove reference

/-- The change that an operation makes. -/
def prepare : Operation → StoreM m Change
  | .put reference package => do
    let entry ← newEntry reference package
    return .binding (← get) entry
  | .tag source target => do
    let entry ← copyEntry source target
    return .binding (← get) entry
  | .remove reference => do
    let key ← keyOf reference
    let index := (← get).index
    match index.get? key with
    | some entry => return { index := index.erase key, replaced := some entry, bound := none }
    | none => throw (missing reference)

/-- What an operation tells when it is done. -/
def tell : Operation → Option StoredPackage → StoreM m Unit
  | .put _ _, some entry => outside (Log.emit (m := m) {
      level := .debug
      message := "Stored package"
      fields := [("reference", .text entry.reference), ("digest", .text entry.digest)] })
  | _, _ => return ()

/-- Carries out an operation and gives back the entry that it has bound, if it binds
one. -/
def carryOut : Operation → StoreM m (Option StoredPackage)
  | .put reference package => some <$> PackageStore.put reference package
  | .tag source target => some <$> PackageStore.tag source target
  | .remove reference => do
    PackageStore.remove reference
    return none

end Operation

/-- A package is put when its entry has been made and is bound. -/
theorem put_eq [LawfulMonad m] (reference : String) (package : Package) :
    (PackageStore.put reference package : StoreM m StoredPackage) = (do
      let entry ← newEntry reference package
      PackageStore.bind entry
      (Operation.put reference package).tell (some entry)
      return entry) := by
  simp only [PackageStore.put, newEntry, Operation.tell, bind_assoc]
  congr 1
  funext key
  congr 1
  funext digest
  congr 1
  funext s
  congr 1
  funext complete
  split <;> simp

/-- A package is tagged when its entry has been copied and is bound. -/
theorem tag_eq [LawfulMonad m] (source target : String) :
    (PackageStore.tag source target : StoreM m StoredPackage) = (do
      let entry ← copyEntry source target
      PackageStore.bind entry
      return entry) := by
  simp only [PackageStore.tag, copyEntry, bind_assoc]
  congr 1
  funext s
  cases s.get? source <;> simp

namespace Operation

/-- **Two steps.** An operation prepares a change, and then it commits the change. What it
gives back is what the change has bound. -/
theorem carryOut_eq [LawfulMonad m] (operation : Operation) :
    (operation.carryOut : StoreM m (Option StoredPackage)) = (do
      let change ← operation.prepare
      commit change.index change.replaced
      operation.tell change.bound
      return change.bound) := by
  cases operation with
  | put reference package =>
      simp only [carryOut, prepare, put_eq, PackageStore.bind, Change.binding, map_eq_pure_bind,
        bind_assoc, pure_bind]
  | tag source target =>
      simp only [carryOut, prepare, tell, tag_eq, PackageStore.bind, Change.binding,
        map_eq_pure_bind, bind_assoc, pure_bind]
  | remove reference =>
      simp only [carryOut, prepare, tell, PackageStore.remove, bind_assoc]
      congr 1
      funext key
      congr 1
      funext s
      cases s.index.get? key <;> simp

/-- Performing an operation is carrying it out, whatever it gives back. -/
theorem perform_eq_map [LawfulMonad m] (operation : Operation) :
    (operation.perform : StoreM m Unit) = (fun _ => ()) <$> operation.carryOut := by
  cases operation <;>
    simp only [perform, carryOut, map_eq_pure_bind, bind_assoc, pure_bind, bind_pure_unit]

theorem perform_eq [LawfulMonad m] (operation : Operation) :
    (operation.perform : StoreM m Unit) = (do
      let change ← operation.prepare
      commit change.index change.replaced
      operation.tell change.bound) := by
  simp only [perform_eq_map, carryOut_eq, map_eq_pure_bind, bind_assoc, pure_bind,
    bind_pure_unit]

end Operation

/-- What brings the directory of a store into line with its index. -/
def align (s : PackageStore) : Option StoredPackage → ExceptT Error m Unit
  | some replaced => do
    clearUnused s replaced
    writeIndex s
  | none => writeIndex s

end Preparing

/-- An entry of an index has a digest. -/
def Used (index : Dictionary StoredPackage) (digest : String) : Prop :=
  ∃ key entry, index.get? key = some entry ∧ entry.digest = digest

/-- The directory of an entry is cleared exactly if its digest is not used. -/
theorem any_digest_iff {index : Dictionary StoredPackage} {digest : String} :
    (index.values.any fun other => decide (other.digest = digest)) = true ↔ Used index digest := by
  rw [List.any_eq_true]
  constructor
  · rintro ⟨other, member, same⟩
    obtain ⟨key, found⟩ := Dictionary.mem_values_iff.mp member
    exact ⟨key, other, found, of_decide_eq_true same⟩
  · rintro ⟨key, other, found, same⟩
    exact ⟨other, Dictionary.mem_values_iff.mpr ⟨key, found⟩, decide_eq_true same⟩

/-! ## Making entries -/

section Entries

variable {s s' : PackageStore} {w w' v : World} {text source target key : String} {p : Package}
  {result : Except Error StoredPackage}

theorem operates_now (s : PackageStore) (w : World) :
    Operates (outside (liftM (Host.now : WorldM Instant))) s w (.ok (w.clock w.readings)) s
      { w with readings := w.readings + 1 } :=
  Operates.outside (World.Runs.lift rfl) s

/-- A package of which its digest is known. -/
theorem operates_stage (key : String) (p : Package) (s : PackageStore) (w : World) :
    ∃ staged, Operates (liftM (Exchange.stage key p)) s w (.ok (staged, p.digest)) s w := by
  obtain ⟨staged, stage⟩ := Exchange.stage_eq key p
  refine ⟨staged, ?_⟩
  rw [← stage]
  exact Operates.liftExcept _ s w

/-- The entry of a package is made when the package is in its directory. -/
theorem operates_newEntry (canonical : Reference.canonical text = .ok key)
    (shelved : World.Runs (shelve s.directory p) w (.ok ()) v) :
    Operates (newEntry text p) s w (.ok (entryOf s.directory key p (v.clock v.readings))) s
      { v with readings := v.readings + 1 } := by
  obtain ⟨staged, stage⟩ := operates_stage key p s w
  rcases World.Runs.bind_cases shelved with ⟨error, -, same⟩ | ⟨complete, u, looked, wrote⟩
  · cases same
  refine (keyOf_of_ok canonical s w).bind (stage.bind ((Operates.get s w).bind
    ((Operates.outside looked s).bind ?_)))
  cases complete with
  | true =>
      obtain ⟨-, rfl⟩ := (World.Runs.pure () u).unique wrote
      exact (operates_now s v).bind (Operates.pure _ _ _)
  | false =>
      exact (Operates.outside wrote s).bind ((operates_now s v).bind (Operates.pure _ _ _))

theorem operates_newEntry_of_error {error : Error}
    (canonical : Reference.canonical text = .ok key)
    (shelved : World.Runs (shelve s.directory p) w (.error error) v) :
    Operates (newEntry text p) s w (.error error) s v := by
  obtain ⟨staged, stage⟩ := operates_stage key p s w
  refine (keyOf_of_ok canonical s w).bind (stage.bind ((Operates.get s w).bind ?_))
  rcases World.Runs.bind_cases shelved with ⟨fault, looked, same⟩ | ⟨complete, u, looked, wrote⟩
  · obtain rfl := Except.error.inj same
    exact (Operates.outside looked s).bind_error _
  · refine (Operates.outside looked s).bind ?_
    cases complete with
    | true => exact nomatch ((World.Runs.pure () u).unique wrote).1
    | false => exact (Operates.outside wrote s).bind_error _

/-- **Entries of packages.** Making an entry puts the package in its directory, if the text
is a reference, and does nothing else to the tree. -/
theorem newEntry_cases (made : Operates (newEntry text p) s w result s' w') :
    s' = s ∧ ((∃ error, result = .error error ∧ w' = w) ∨
      ∃ key outcome v, Reference.canonical text = .ok key ∧
        World.Runs (shelve s.directory p) w outcome v ∧ w'.tree = v.tree ∧
        w'.working = v.working ∧
        result = outcome.map fun _ => entryOf s.directory key p (v.clock v.readings)) := by
  cases canonical : Reference.canonical text with
  | error fault =>
      obtain ⟨rfl, rfl, rfl⟩ := ((keyOf_of_error canonical s w).bind_error _).unique made
      exact ⟨rfl, Or.inl ⟨_, rfl, rfl⟩⟩
  | ok key =>
      obtain ⟨outcome, v, shelved⟩ := World.Runs.total (shelve s.directory p) w
      cases outcome with
      | error error =>
          obtain ⟨rfl, rfl, rfl⟩ := (operates_newEntry_of_error canonical shelved).unique made
          exact ⟨rfl, Or.inr ⟨key, _, w', rfl, shelved, rfl, rfl, rfl⟩⟩
      | ok _ =>
          obtain ⟨rfl, rfl, rfl⟩ := (operates_newEntry canonical shelved).unique made
          exact ⟨rfl, Or.inr ⟨key, _, v, rfl, shelved, rfl, rfl, rfl⟩⟩

/-- The entry under another key is made when there is an entry to copy. -/
theorem operates_copyEntry {entry : StoredPackage} (found : s.get? source = some entry)
    (canonical : Reference.canonical target = .ok key) :
    Operates (copyEntry source target) s w
      (.ok { entry with reference := key, created := w.clock w.readings }) s
      { w with readings := w.readings + 1 } := by
  refine (Operates.get s w).bind ?_
  rw [found]
  exact (keyOf_of_ok canonical s w).bind ((operates_now s w).bind (Operates.pure _ _ _))

theorem operates_copyEntry_of_missing (target : String) (absent : s.get? source = none) :
    Operates (copyEntry source target) s w (.error (missing source)) s w := by
  refine (Operates.get s w).bind ?_
  rw [absent]
  exact Operates.throw _ _ _

theorem operates_copyEntry_of_error {entry : StoredPackage} {fault : Reference.Fault}
    (found : s.get? source = some entry) (canonical : Reference.canonical target = .error fault) :
    Operates (copyEntry source target) s w (.error (.invalidReference fault.message)) s w := by
  refine (Operates.get s w).bind ?_
  rw [found]
  exact (keyOf_of_error canonical s w).bind_error _

/-- **Copies of entries.** Copying an entry does nothing to the tree. -/
theorem copyEntry_cases (made : Operates (copyEntry source target) s w result s' w') :
    s' = s ∧ w'.tree = w.tree ∧ w'.working = w.working ∧
      ∀ entry, result = .ok entry → Reference.canonical target = .ok entry.reference := by
  cases found : s.get? source with
  | none =>
      obtain ⟨rfl, rfl, rfl⟩ := (operates_copyEntry_of_missing target found).unique made
      exact ⟨rfl, rfl, rfl, nofun⟩
  | some entry =>
      cases canonical : Reference.canonical target with
      | error fault =>
          obtain ⟨rfl, rfl, rfl⟩ := (operates_copyEntry_of_error found canonical).unique made
          exact ⟨rfl, rfl, rfl, nofun⟩
      | ok key =>
          obtain ⟨rfl, rfl, rfl⟩ := (operates_copyEntry found canonical).unique made
          refine ⟨rfl, rfl, rfl, ?_⟩
          rintro _ ⟨⟩
          rfl

/-- What is found under a text is in the index under its reference. -/
theorem canonical_of_get? {entry : StoredPackage} (found : s.get? text = some entry) :
    ∃ key, Reference.canonical text = .ok key ∧ s.index.get? key = some entry := by
  unfold get? at found
  split at found
  · next key canonical => exact ⟨key, canonical, found⟩
  · cases found

/-- What is found is in the index. -/
theorem index_of_get? {entry : StoredPackage} (found : s.get? text = some entry) :
    ∃ key, s.index.get? key = some entry :=
  (canonical_of_get? found).imp fun _ => And.right

/-- The entry that is copied has the directory of the one that it is copied from. -/
theorem path_of_copyEntry {entry : StoredPackage}
    (made : Operates (copyEntry source target) s w (.ok entry) s' w') :
    ∃ key found, s.index.get? key = some found ∧ entry.path = found.path := by
  cases found : s.get? source with
  | none => exact nomatch ((operates_copyEntry_of_missing target found).unique made).1
  | some original =>
      obtain ⟨key, bound⟩ := index_of_get? found
      cases canonical : Reference.canonical target with
      | error fault => exact nomatch ((operates_copyEntry_of_error found canonical).unique made).1
      | ok other =>
          obtain ⟨same, -, -⟩ := (operates_copyEntry found canonical).unique made
          obtain rfl := Except.ok.inj same
          exact ⟨key, original, bound, rfl⟩

end Entries

section Committing

variable {s s' : PackageStore} {w w' : World} {result : Except Error Unit}

/-- **Committing.** The handle takes the new index, whatever becomes of the directory. -/
theorem operates_commit (index : Dictionary StoredPackage) (replaced : Option StoredPackage)
    (runs : World.Runs (align { s with index } replaced) w result w') :
    Operates (commit index replaced) s w result { s with index } w' := by
  refine (Operates.modifyIndex index s w).bind ((Operates.get _ w).bind ?_)
  cases replaced with
  | none => exact Operates.outside runs _
  | some entry =>
      rcases World.Runs.bind_cases runs with ⟨error, failed, rfl⟩ | ⟨_, v, cleared, written⟩
      · exact (Operates.outside failed _).bind_error _
      · exact (Operates.outside cleared _).bind (Operates.outside written _)

theorem operates_bind (entry : StoredPackage)
    (runs : World.Runs (align { s with index := s.index.insert entry.reference entry }
      (s.index.get? entry.reference)) w result w') :
    Operates (PackageStore.bind entry) s w result
      { s with index := s.index.insert entry.reference entry } w' := by
  refine (Operates.get s w).bind ?_
  exact operates_commit _ _ runs

/-- What commits a change is what brings the directory into line. -/
theorem align_of_commit {index : Dictionary StoredPackage} {replaced : Option StoredPackage}
    (committed : Operates (commit index replaced) s w result s' w') :
    s' = { s with index } ∧ World.Runs (align { s with index } replaced) w result w' := by
  obtain ⟨outcome, v, runs⟩ := World.Runs.total (align { s with index } replaced) w
  obtain ⟨rfl, rfl, rfl⟩ := (operates_commit index replaced runs).unique committed
  exact ⟨rfl, runs⟩

namespace Operation

/-- Preparing a change leaves the handle as it is. -/
theorem steady_prepare (operation : Operation) :
    Steady (operation.prepare : StoreM WorldM Change) := by
  cases operation with
  | put reference package =>
      refine Steady.bind ?_ fun entry => Steady.get.bind fun s => Steady.pure _
      exact fun _ _ _ _ _ made => (newEntry_cases made).1
  | tag source target =>
      refine Steady.bind ?_ fun entry => Steady.get.bind fun s => Steady.pure _
      exact fun _ _ _ _ _ made => (copyEntry_cases made).1
  | remove reference =>
      refine (Steady.keyOf reference).bind fun key => Steady.get.bind fun s => ?_
      dsimp only
      split
      · exact Steady.pure _
      · exact Steady.throw _

/-- An operation that binds an entry prepares it when the entry has been made. -/
theorem of_binding {enter : StoreM WorldM StoredPackage} {result : Except Error Change}
    (steady : Steady enter) (prepared : Operates (do
      let entry ← enter
      return Change.binding (← get) entry) s w result s' w') :
    ∃ outcome, Operates enter s w outcome s w' ∧ result = outcome.map (Change.binding s) := by
  rcases Operates.bind_cases prepared with ⟨error, failed, rfl⟩ | ⟨entry, t, v, made, further⟩
  · obtain rfl := steady _ _ _ _ _ failed
    exact ⟨_, failed, rfl⟩
  · obtain rfl := steady _ _ _ _ _ made
    obtain ⟨rfl, -, rfl⟩ :=
      ((Operates.get t v).bind (Operates.pure (Change.binding t entry) _ _)).unique further
    exact ⟨_, made, rfl⟩

/-- Putting a package is prepared when its entry has been made. -/
theorem prepare_put {text : String} {p : Package} {entry : StoredPackage}
    (made : Operates (newEntry text p) s w (.ok entry) s w') :
    Operates (Operation.put text p).prepare s w (.ok (.binding s entry)) s w' :=
  made.bind ((Operates.get s w').bind (Operates.pure _ _ _))

/-- Tagging a package is prepared when the entry has been copied. -/
theorem prepare_tag {source target : String} {entry : StoredPackage}
    (made : Operates (copyEntry source target) s w (.ok entry) s w') :
    Operates (Operation.tag source target).prepare s w (.ok (.binding s entry)) s w' :=
  made.bind ((Operates.get s w').bind (Operates.pure _ _ _))

/-- Removing a reference that is bound is prepared, and does nothing to the world. -/
theorem prepare_remove {text key : String} {entry : StoredPackage}
    (canonical : Reference.canonical text = .ok key) (bound : s.index.get? key = some entry) :
    Operates (Operation.remove text).prepare s w
      (.ok { index := s.index.erase key, replaced := some entry, bound := none }) s w := by
  refine (keyOf_of_ok canonical s w).bind ((Operates.get s w).bind ?_)
  dsimp only
  rw [bound]
  exact Operates.pure _ _ _

theorem prepare_remove_of_missing {text key : String}
    (canonical : Reference.canonical text = .ok key) (absent : s.index.get? key = none) :
    Operates (Operation.remove text).prepare s w (.error (missing text)) s w := by
  refine (keyOf_of_ok canonical s w).bind ((Operates.get s w).bind ?_)
  dsimp only
  rw [absent]
  exact Operates.throw _ _ _

/-- What removing a reference prepares does nothing to the world. -/
theorem prepare_remove_cases {reference : String} {result : Except Error Change}
    (prepared : Operates (Operation.remove reference).prepare s w result s' w') :
    w' = w ∧ ∀ change, result = .ok change → ∃ key entry,
      Reference.canonical reference = .ok key ∧ s.index.get? key = some entry ∧
        change = { index := s.index.erase key, replaced := some entry, bound := none } := by
  cases canonical : Reference.canonical reference with
  | error fault =>
      obtain ⟨rfl, -, rfl⟩ := ((keyOf_of_error canonical s w).bind_error _).unique prepared
      exact ⟨rfl, nofun⟩
  | ok key =>
      cases bound : s.index.get? key with
      | none =>
          obtain ⟨rfl, -, rfl⟩ := (prepare_remove_of_missing canonical bound).unique prepared
          exact ⟨rfl, nofun⟩
      | some entry =>
          obtain ⟨rfl, -, rfl⟩ := (prepare_remove canonical bound).unique prepared
          refine ⟨rfl, ?_⟩
          rintro _ ⟨⟩
          exact ⟨_, entry, rfl, bound, rfl⟩

/-- **Prepared changes** are about the reference of the subject: an entry is bound to it, or
the entry that is bound to it is removed. -/
theorem of_prepare_ok {operation : Operation} {change : Change}
    (prepared : Operates operation.prepare s w (.ok change) s' w') :
    ∃ key, Reference.canonical operation.subject = .ok key ∧
      ((∃ entry, entry.reference = key ∧ change = .binding s entry) ∨
        ∃ entry, s.index.get? key = some entry ∧
          change = { index := s.index.erase key, replaced := some entry, bound := none }) := by
  cases operation with
  | put reference package =>
      obtain ⟨outcome, made, same⟩ :=
        of_binding (fun _ _ _ _ _ made => (newEntry_cases made).1) prepared
      rcases newEntry_cases made with
        ⟨-, ⟨error, rfl, -⟩ | ⟨key, shelved, v, canonical, -, -, -, rfl⟩⟩
      · cases same
      · cases shelved with
        | error error => cases same
        | ok _ => exact ⟨key, canonical, Or.inl ⟨_, rfl, Except.ok.inj same⟩⟩
  | tag source target =>
      obtain ⟨outcome, made, same⟩ :=
        of_binding (fun _ _ _ _ _ made => (copyEntry_cases made).1) prepared
      cases outcome with
      | error error => cases same
      | ok entry =>
          exact ⟨entry.reference, (copyEntry_cases made).2.2.2 entry rfl,
            Or.inl ⟨entry, rfl, Except.ok.inj same⟩⟩
  | remove reference =>
      obtain ⟨key, entry, canonical, bound, same⟩ := (prepare_remove_cases prepared).2 change rfl
      exact ⟨key, canonical, Or.inr ⟨entry, bound, same⟩⟩

/-- What is told does not depend on the handle. -/
theorem operates_tell (operation : Operation) (bound : Option StoredPackage) (w : World) :
    ∃ events, ∀ s, Operates (operation.tell bound) s w (.ok ()) s { w with events } := by
  cases operation <;> cases bound <;> exact ⟨_, fun _ => rfl⟩

theorem perform_of_error {operation : Operation} {error : Error}
    (early : Operates operation.prepare s w (.error error) s' w') :
    Operates operation.perform s w (.error error) s' w' := by
  rw [perform_eq]
  exact early.bind_error _

theorem perform_of_ok {operation : Operation} {change : Change} {v : World}
    (prepared : Operates operation.prepare s w (.ok change) s v)
    (aligned : World.Runs (align { s with index := change.index } change.replaced) v (.ok ()) w') :
    ∃ events, Operates operation.perform s w (.ok ()) { s with index := change.index }
      { w' with events } := by
  obtain ⟨events, told⟩ := operation.operates_tell change.bound w'
  refine ⟨events, ?_⟩
  rw [perform_eq]
  exact prepared.bind ((operates_commit _ _ aligned).bind (told _))

/-- An operation fails when its change is prepared and the directory cannot be brought into
line; the handle has taken the change. -/
theorem perform_of_broken {operation : Operation} {change : Change} {v : World} {error : Error}
    (prepared : Operates operation.prepare s w (.ok change) s v)
    (broken : World.Runs (align { s with index := change.index } change.replaced) v
      (.error error) w') :
    Operates operation.perform s w (.error error) { s with index := change.index } w' := by
  rw [perform_eq]
  exact prepared.bind ((operates_commit _ _ broken).bind_error _)

/-- **Failures.** An operation that fails either could not prepare its change, and the
handle is as it was, or it could not bring the directory into line with the change, which
the handle has taken. -/
theorem failure_cases {operation : Operation} {error : Error}
    (failed : Operates operation.perform s w (.error error) s' w') :
    (Operates operation.prepare s w (.error error) s w' ∧ s' = s) ∨
      ∃ change v, Operates operation.prepare s w (.ok change) s v ∧
        s' = { s with index := change.index } ∧
        World.Runs (align { s with index := change.index } change.replaced) v
          (.error error) w' := by
  rw [perform_eq] at failed
  rcases Operates.bind_cases failed with ⟨fault, early, same⟩ | ⟨change, t, v, prepared, late⟩
  · obtain rfl := Except.error.inj same
    obtain rfl := operation.steady_prepare _ _ _ _ _ early
    exact Or.inl ⟨early, rfl⟩
  · obtain rfl := operation.steady_prepare _ _ _ _ _ prepared
    rcases Operates.bind_cases late with ⟨fault, broken, same⟩ | ⟨_, t', v', -, told⟩
    · obtain rfl := Except.error.inj same
      obtain ⟨rfl, runs⟩ := align_of_commit broken
      exact Or.inr ⟨change, v, prepared, rfl, runs⟩
    · obtain ⟨events, done⟩ := operation.operates_tell change.bound v'
      exact nomatch ((done t').unique told).1

/-- The handle takes the change that an operation has prepared, whatever becomes of it. -/
theorem index_of_perform {operation : Operation} {change : Change} {v : World}
    (prepared : Operates operation.prepare s w (.ok change) s v)
    (performed : Operates operation.perform s w result s' w') :
    s' = { s with index := change.index } := by
  obtain ⟨outcome, u, aligned⟩ :=
    World.Runs.total (align { s with index := change.index } change.replaced) v
  cases outcome with
  | error error => exact ((perform_of_broken prepared aligned).unique performed).2.1
  | ok _ =>
      obtain ⟨events, done⟩ := perform_of_ok prepared aligned
      exact (done.unique performed).2.1

end Operation

/-- A package has been put if it is in its directory, its entry is bound, and the directory
of the store has been brought into line. -/
theorem of_put_ok {text : String} {p : Package} {entry : StoredPackage}
    (stored : Operates (PackageStore.put text p) s w (.ok entry) s' w') :
    ∃ key v u events, Reference.canonical text = .ok key ∧
      World.Runs (shelve s.directory p) w (.ok ()) v ∧
      entry = entryOf s.directory key p (v.clock v.readings) ∧
      s' = { s with index := s.index.insert key entry } ∧
      World.Runs (align s' (s.index.get? key)) { v with readings := v.readings + 1 } (.ok ()) u ∧
      w' = { u with events } := by
  rw [put_eq] at stored
  rcases Operates.bind_cases stored with ⟨error, -, same⟩ | ⟨made, t, v, entered, further⟩
  · cases same
  rcases Operates.bind_cases further with ⟨error, -, same⟩ | ⟨_, t', u, bound, last⟩
  · cases same
  cases canonical : Reference.canonical text with
  | error fault =>
      exact nomatch (((keyOf_of_error canonical s w).bind_error _).unique entered).1
  | ok key =>
      obtain ⟨outcome, shelved, runs⟩ := World.Runs.total (shelve s.directory p) w
      cases outcome with
      | error error =>
          exact nomatch ((operates_newEntry_of_error canonical runs).unique entered).1
      | ok _ =>
          obtain ⟨same, rfl, rfl⟩ := (operates_newEntry canonical runs).unique entered
          obtain rfl := Except.ok.inj same
          obtain ⟨rfl, aligned⟩ := align_of_commit ((Operates.get _ _).rest bound)
          obtain ⟨events, told⟩ := (Operation.put text p).operates_tell (some _) u
          have given := (told _).rest last
          obtain ⟨same, rfl, rfl⟩ := (Operates.pure _ _ _).unique given
          obtain rfl := Except.ok.inj same
          exact ⟨key, shelved, u, events, rfl, runs, rfl, rfl, aligned, rfl⟩

theorem operates_put {text key : String} {p : Package} {u v : World}
    (canonical : Reference.canonical text = .ok key)
    (shelved : World.Runs (shelve s.directory p) w (.ok ()) v)
    (changed : s' = { s with
      index := s.index.insert key (entryOf s.directory key p (v.clock v.readings)) })
    (aligned : World.Runs (align s' (s.index.get? key)) { v with readings := v.readings + 1 }
      (.ok ()) u) :
    ∃ events, Operates (PackageStore.put text p) s w
      (.ok (entryOf s.directory key p (v.clock v.readings))) s' { u with events } := by
  subst changed
  obtain ⟨events, told⟩ := (Operation.put text p).operates_tell
    (some (entryOf s.directory key p (v.clock v.readings))) u
  refine ⟨events, ?_⟩
  rw [put_eq]
  exact (operates_newEntry canonical shelved).bind
    ((operates_bind _ aligned).bind ((told _).bind (Operates.pure _ _ _)))

end Committing

end BpfDepot.PackageStore
