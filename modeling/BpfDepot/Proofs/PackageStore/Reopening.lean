import BpfDepot.Proofs.PackageStore.Agreement
import BpfDepot.Proofs.PackageStore.Kept

/-! # Opening a store again and again

A program that works on a store may be ended and started again at any time, and then it
opens the directory again. No answer tells whether this has happened: what is asked of a
store is answered as by a handle that is kept open all the time
(`PackageStore.reopening_unseen`). One request keeps the directory and is answered alike by
handles that agree (`PackageStore.Kept.answer`); a handle that is opened on a directory
that is kept agrees with the one before (`PackageStore.Kept.reopen`).
-/

namespace BpfDepot.PackageStore

open FileTree World

/-! ## Histories -/

/-- What is asked of a store. -/
inductive Request where
  | change (operation : Operation)
  | list
  | get (text : String)
  | load (text : String)

/-- What a request is answered with. -/
inductive Reply where
  /-- An operation has bound an entry, or none, or has failed. -/
  | changed (result : Except Error (Option StoredPackage))
  | listed (entries : List StoredPackage)
  | found (entry : Option StoredPackage)
  | loaded (result : Except Error Package)

/-- One step of a history. -/
inductive Step where
  | ask (request : Request)
  /-- The handle is dropped, and the directory is opened again. -/
  | reopen

section Programs

variable {m : Type → Type} [Monad m] [Host m]

/-- Takes a step and gives back what became of it. -/
def outcome {α : Type} (step : StoreM m α) : StoreM m (Except Error α) :=
  ExceptT.mk do
    let result ← step.run
    return .ok result

/-- Answers a request. -/
def answer : Request → StoreM m Reply
  | .change operation => Reply.changed <$> outcome operation.carryOut
  | .list => return .listed (← get).list
  | .get text => return .found ((← get).get? text)
  | .load text => do
    let s ← get
    Reply.loaded <$> outcome (outside (s.load text))

/-- Takes the steps of a history and gives back the answers. It fails if the directory
cannot be opened again. -/
def answerAll : List Step → StoreM m (List Reply)
  | [] => return []
  | .ask request :: rest => do
    let reply ← answer request
    let replies ← answerAll rest
    return reply :: replies
  | .reopen :: rest => do
    let s ← get
    set (← outside (openAt (m := m) s.directory))
    answerAll rest

end Programs

/-- The packages that a step brings. -/
def Step.packages : Step → List Package
  | .ask (.change operation) => operation.packages
  | _ => []

/-- The steps of a history in which the handle is kept open. -/
def Step.isAsk : Step → Bool
  | .ask _ => true
  | .reopen => false

variable {shelf : Package → Prop} {home : Location} {s t s' : PackageStore} {w w' : World}

/-! ## One step -/

theorem operates_outcome {α : Type} {step : StoreM WorldM α} {result : Except Error α}
    (operates : Operates step s w result s' w') :
    Operates (outcome step) s w (.ok result) s' w' := by
  change (outcome step) s w = _
  have stepped : step s w = ((result, s'), w') := operates
  simp only [outcome, ExceptT.mk, ExceptT.run, Bind.bind, StateT.bind, stepped]
  rfl

theorem operates_change {operation : Operation} {result : Except Error (Option StoredPackage)}
    (carried : Operates operation.carryOut s w result s' w') :
    Operates (answer (.change operation)) s w (.ok (.changed result)) s' w' :=
  (operates_outcome carried).bind (Operates.pure _ _ _)

theorem operates_list (s : PackageStore) (w : World) :
    Operates (answer .list) s w (.ok (.listed s.list)) s w :=
  (Operates.get s w).bind (Operates.pure _ _ _)

theorem operates_find (text : String) (s : PackageStore) (w : World) :
    Operates (answer (.get text)) s w (.ok (.found (s.get? text))) s w :=
  (Operates.get s w).bind (Operates.pure _ _ _)

theorem operates_load {text : String} {result : Except Error Package}
    (loaded : Runs (s.load text) w result w') :
    Operates (answer (.load text)) s w (.ok (.loaded result)) s w' :=
  (Operates.get s w).bind ((operates_outcome (Operates.outside loaded s)).bind
    (Operates.pure _ _ _))

/-- A directory is kept for a handle that agrees with its handle. -/
theorem Kept.of_agree (kept : Kept shelf home s w) (agree : Agree s t) : Kept shelf home t w := by
  refine ⟨agree.directory ▸ kept.stocked, fun key entry found => ?_, ?_⟩
  · rw [← agree.bindings] at found
    exact agree.directory ▸ kept.lodging key entry found
  · rw [← agree.list_eq]
    exact kept.filed

/-- A handle agrees with one that has its bindings in another order. -/
theorem Kept.agree (kept : Kept shelf home s w) {index : Dictionary StoredPackage}
    (same : ∀ key, index.get? key = s.index.get? key) :
    Agree { directory := s.directory, index } s := by
  refine ⟨rfl, same, fun key entry found => ?_⟩
  rw [same] at found
  exact (kept.lodging key entry found).reference

/-- **Opening again.** The new handle agrees with the old one, and nothing changes. -/
theorem Kept.reopen (kept : Kept shelf home s w) : ∃ r,
    Operates (outside (PackageStore.openAt s.directory)) s w (.ok r) s w ∧ Agree r s ∧
      Kept shelf home r w := by
  obtain ⟨index, opened, same⟩ := kept.openAt
  have agree := kept.agree same
  exact ⟨_, Operates.outside opened s, agree, kept.of_agree agree.symm⟩

theorem Kept.load (kept : Kept shelf home s w) (text : String) :
    ∃ result, Runs (s.load text) w result w := by
  unfold PackageStore.load
  cases found : s.get? text with
  | none => exact ⟨_, Runs.throw _ _⟩
  | some entry =>
      obtain ⟨key, bound⟩ := index_of_get? found
      obtain ⟨-, path, ⟨p, held, digest⟩, -⟩ := kept.lodging key entry bound
      refine ⟨.ok p, ?_⟩
      dsimp only
      rw [path, ← digest]
      exact kept.stocked.readPackage_of_held held

/-- **Requests.** A request is answered alike by handles that agree, and the directory is
kept. -/
theorem Kept.answer (kept : Kept shelf home s w) (clock : ∀ i, (w.clock i).Valid)
    (agree : Agree s t) {request : Request}
    (small : ∀ p ∈ (Step.ask request).packages, p.size < 2 ^ 64) :
    ∃ reply s' t' w' after, Operates (answer request) s w (.ok reply) s' w' ∧
      Operates (PackageStore.answer request) t w (.ok reply) t' w' ∧ Kept after home s' w' ∧
      Agree s' t' ∧ s'.directory = s.directory ∧ w'.clock = w.clock := by
  cases request with
  | change operation =>
      obtain ⟨result, s', w', after, carried, next, directory, turned⟩ := kept.carryOut clock small
      obtain ⟨t', other, still⟩ := agree.carryOut carried
      exact ⟨_, s', t', w', after, operates_change carried, operates_change other, next, still,
        directory, turned⟩
  | list =>
      refine ⟨_, s, t, w, shelf, operates_list s w, ?_, kept, agree, rfl, rfl⟩
      rw [agree.list_eq]
      exact operates_list t w
  | get text =>
      refine ⟨_, s, t, w, shelf, operates_find text s w, ?_, kept, agree, rfl, rfl⟩
      rw [agree.get?_eq]
      exact operates_find text t w
  | load text =>
      obtain ⟨result, loaded⟩ := kept.load text
      have other := loaded
      rw [agree.load_eq] at other
      exact ⟨_, s, t, w, shelf, operates_load loaded, operates_load other, kept, agree, rfl, rfl⟩

/-! ## Histories -/

/-- **Runs.** A history is answered as the same history is in which the handle is kept
open, and the handles at the end agree. -/
theorem Kept.answerAll {steps : List Step} (kept : Kept shelf home s w)
    (clock : ∀ i, (w.clock i).Valid) (agree : Agree s t)
    (small : ∀ step ∈ steps, ∀ p ∈ step.packages, p.size < 2 ^ 64) :
    ∃ replies s' t' w' after, Operates (answerAll steps) s w (.ok replies) s' w' ∧
      Operates (PackageStore.answerAll (steps.filter Step.isAsk)) t w (.ok replies) t' w' ∧
      Kept after home s' w' ∧ Agree s' t' ∧ s'.directory = s.directory := by
  induction steps generalizing shelf s t w with
  | nil =>
      exact ⟨[], s, t, w, shelf, Operates.pure _ _ _, Operates.pure _ _ _, kept, agree, rfl⟩
  | cons step rest ih =>
      have further := fun other member => small other (List.mem_cons_of_mem step member)
      cases step with
      | ask request =>
          obtain ⟨reply, s₁, t₁, w₁, between, first, other, next, still, directory, turned⟩ :=
            kept.answer clock agree (small _ List.mem_cons_self)
          rw [← turned] at clock
          obtain ⟨replies, s', t', w', after, ran, alike, last, same, place⟩ :=
            ih next clock still further
          exact ⟨reply :: replies, s', t', w', after,
            first.bind (ran.bind (Operates.pure _ _ _)),
            other.bind (alike.bind (Operates.pure _ _ _)), last, same, place.trans directory⟩
      | reopen =>
          obtain ⟨r, opened, again, next⟩ := kept.reopen
          obtain ⟨replies, s', t', w', after, ran, alike, last, same, place⟩ :=
            ih next clock (again.trans agree) further
          have taken : Operates (set r : StoreM WorldM PUnit) s w (.ok ⟨⟩) r w := rfl
          exact ⟨replies, s', t', w', after,
            (Operates.get s w).bind (opened.bind (taken.bind ran)), alike, last, same,
            place.trans again.directory⟩

/-- **Reopening.** Open a store where nothing stands below the place of its directory, and
let nothing else write there and no call be broken off. Then any history of operations and
questions is answered alike whether the handle is kept open or dropped and opened again at
any points of it. The handles at the end have the same bindings, and these are what is then
read from the directory. -/
theorem reopening_unseen {directory : String} {before world : World} {store : PackageStore}
    (quiet : before.Quiet) (standing : before.tree.node? before.working = some .directory)
    (direct : Direct before.working directory)
    (fresh : before.tree.Bare (spot before.working directory))
    (opened : Runs (openAt directory) before (.ok store) world)
    (clock : ∀ i, (world.clock i).Valid) (steps : List Step)
    (small : ∀ step ∈ steps, ∀ p ∈ step.packages, p.size < 2 ^ 64) :
    ∃ replies s t w index,
      Operates (answerAll steps) store world (.ok replies) s w ∧
      Operates (answerAll (steps.filter Step.isAsk)) store world (.ok replies) t w ∧
      Runs (readIndex directory) w (.ok index) w ∧
      ∀ key, index.get? key = t.index.get? key ∧ s.index.get? key = t.index.get? key := by
  have kept := kept_of_openAt quiet standing direct fresh opened
  obtain ⟨rfl, -, -, -⟩ := bare_of_openAt opened quiet standing direct fresh
  obtain ⟨replies, s, t, w, after, ran, alike, last, agree, place⟩ :=
    kept.answerAll clock (kept.agree fun _ => rfl) small
  obtain ⟨index, read, same⟩ := last.readIndex
  rw [place] at read
  exact ⟨replies, s, t, w, index, ran, alike, read,
    fun key => ⟨(same key).trans (agree.bindings key), agree.bindings key⟩⟩

/-- A store in a missing directory takes a package, is opened again, tags the package, is
opened again, and removes the first reference; the second one still loads. -/
theorem reopening_unseen_probe :
    let steps : List Step := [.ask (.change (.put "probe" Probe.package)), .reopen,
      .ask (.change (.tag "probe" "other:v1")), .ask .list, .reopen,
      .ask (.change (.remove "probe")), .ask (.get "probe"), .ask (.load "other:v1")]
    Runs (openAt "store") Probe.before (.ok Probe.store) Probe.world ∧
      ∃ replies s t w index,
        Operates (answerAll steps) Probe.store Probe.world (.ok replies) s w ∧
        Operates (answerAll (steps.filter Step.isAsk)) Probe.store Probe.world (.ok replies) t w ∧
        Runs (readIndex "store") w (.ok index) w ∧
        ∀ key, index.get? key = t.index.get? key ∧ s.index.get? key = t.index.get? key := by
  intro steps
  have small : ∀ p ∈ steps.flatMap Step.packages, p.size < 2 ^ 64 :=
    Probe.small fun _ => List.mem_singleton.mp
  exact ⟨Probe.opened, reopening_unseen Probe.quiet Probe.standing Probe.direct Probe.fresh
    Probe.opened Probe.clock steps (List.forall_mem_flatMap.mp small)⟩

end BpfDepot.PackageStore
