import Mathlib.Data.List.Forall2
import Mathlib.Logic.Function.Basic
import BpfDepot.Proofs.Exchange.Parts

/-! # Pushing and pulling at the same time

Any number of calls are under way at a shared memory store. Each takes three steps: what it
does before its access to the store, the access, and what it does afterwards
(`Exchange.Call.perform_eq`). A schedule says whose step is next (`Exchange.System.runAll`).
Whatever the schedule, the store holds the package that was pushed last under each
reference, in the order of the accesses (`Exchange.System.Keeps.step`). So every call
returns what it would return if the calls were made one after the other in the order of
their accesses (`Exchange.linearizable`).
-/

namespace BpfDepot.Exchange

open Logged

variable {known : ByteArray → Prop}

/-! ## Calls -/

/-- What clients ask for. -/
inductive Call where
  | push (reference : String) (package : Package)
  | pull (reference : String)

/-- What clients are given back. -/
inductive Reply where
  | pushed (result : Except Error Unit)
  | pulled (result : Except Error Package)

/-- What a pull gives back when a package, or none, is under its reference. -/
def found (reference : String) : Option Package → Except Error Package
  | some package => .ok package
  | none => .error (.notFound reference)

/-- The one use of the store: it leaves a store, and what the call has still to do. -/
abbrev Access := MemoryStore → MemoryStore × Logged Reply

namespace Call

/-- The reference of a call. -/
def reference : Call → String
  | .push reference _ | .pull reference => reference

/-- The byte strings that a call brings. -/
def supplied : Call → List ByteArray
  | .push _ package => package.artifact.contents
  | .pull _ => []

/-- The reply of a call that fails. -/
def failure (error : Error) : Call → Reply
  | .push _ _ => .pushed (.error error)
  | .pull _ => .pulled (.error error)

/-- What a call does before its access, unless it returns without one. -/
def start : Call → Logged (Except Reply Access)
  | .push reference package => do
    match ← prepare reference package with
    | .error error => return .error (.pushed (.error error))
    | .ok (artifact, digest) =>
      return .ok fun s => match s.store reference artifact with
        | .ok (s', stored) => (s', .pushed <$> conclude reference digest (.ok stored))
        | .error error => (s, .pushed <$> conclude reference digest (.error error))
  | .pull reference => do
    match ← inquire reference with
    | .error error => return .error (.pulled (.error error))
    | .ok () => return .ok fun s => (s, .pulled <$> unpack reference (s.fetch reference))

/-- Makes a call at a store, all at once. -/
def perform : Call → StateT MemoryStore Logged Reply
  | .push reference package => fun s => do
    let (target, result) ← Exchange.push (.memory s) reference package
    let s' := match target with
      | .memory s' => s'
      | .registry _ => s
    return (.pushed result, s')
  | .pull reference => fun s => do return (.pulled (← Exchange.pull (.memory s) reference), s)

/-- **Three steps.** A call starts, uses the store once, and does the rest. -/
theorem perform_eq (call : Call) (s : MemoryStore) : call.perform s = (do
    match ← call.start with
    | .error reply => return (reply, s)
    | .ok access => return (← (access s).2, (access s).1)) := by
  cases call with
  | push reference package =>
      simp only [perform, start, push_eq, bind_assoc]
      congr 1
      funext prepared
      cases prepared with
      | error error => simp
      | ok prepared =>
          simp only [Target.store, pure_bind]
          cases s.store reference prepared.1 with
          | error error => simp
          | ok stored => simp
  | pull reference =>
      simp only [perform, start, pull_eq, bind_assoc]
      congr 1
      funext inquired
      cases inquired with
      | error error => simp
      | ok _ => simp [Target.fetch]

/-- What a call does to the packages that were pushed last. -/
def effect : Call → (String → Option Package) → String → Option Package
  | .push reference package, b => Function.update b reference (some package)
  | .pull _, b => b

/-- The reply of a call under a reference that is not blank. -/
def reply : Call → (String → Option Package) → Reply
  | .push _ _, _ => .pushed (.ok ())
  | .pull reference, b => .pulled (found reference (b reference))

end Call

/-- A store holds certain packages, and nothing else. -/
structure Holds (known : ByteArray → Prop) (b : String → Option Package) (s : MemoryStore) :
    Prop where
  sound : s.Sound known
  supplied : ∀ reference p, b reference = some p → ∀ bytes ∈ p.artifact.contents, known bytes
  present : ∀ reference p, b reference = some p → s.fetch reference = .ok p.artifact
  absent : ∀ reference, b reference = none → s.manifest? reference = none

variable {b : String → Option Package} {s : MemoryStore}

theorem holds_empty (known : ByteArray → Prop) : Holds known (fun _ => none) .empty where
  sound := MemoryStore.sound_empty known
  supplied := nofun
  present := nofun
  absent _ _ := rfl

/-- A package that is stored takes the place of what was under its reference. -/
theorem Holds.store (holds : Holds known b s) (told : Digest.TellsApart known) {p : Package}
    (here : ∀ bytes ∈ p.artifact.contents, known bytes) (reference : String) :
    ∃ s', s.store reference p.artifact = .ok (s', p.digest) ∧
      Holds known (Function.update b reference (some p)) s' := by
  have stored := store_artifact s reference p
  obtain ⟨sound, within, fetched⟩ := holds.sound.store told here stored
  refine ⟨_, stored, sound, fun other q bound => ?_, fun other q bound => ?_,
    fun other unbound => ?_⟩
  all_goals by_cases same : other = reference
  · subst same
    rw [Function.update_self] at bound
    exact Option.some.inj bound ▸ here
  · rw [Function.update_of_ne same] at bound
    exact holds.supplied other q bound
  · subst same
    rw [Function.update_self] at bound
    exact Option.some.inj bound ▸ fetched
  · rw [Function.update_of_ne same] at bound
    refine (holds.sound.fetch_eq_of_within within ?_).trans (holds.present other q bound)
    rw [MemoryStore.manifest?_record, if_neg same, MemoryStore.manifest?_ingest]
  · subst same
    rw [Function.update_self] at unbound
    cases unbound
  · rw [Function.update_of_ne same] at unbound
    rw [MemoryStore.manifest?_record, if_neg same, MemoryStore.manifest?_ingest]
    exact holds.absent other unbound

namespace Call

variable {call : Call}

/-- A call that is refused returns at once. -/
theorem gives_start_of_error {error : Error}
    (refused : checkReference call.reference = .error error) :
    Gives call.start (.error (call.failure error)) := by
  cases call with
  | push reference p => exact (gives_prepare_of_error refused p).bind (.pure _)
  | pull reference => exact (gives_inquire_of_error refused).bind (.pure _)

/-- Once it has used the store, a call has its effect, and its reply is settled. -/
def Settles (known : ByteArray → Prop) (call : Call) (access : Access) : Prop :=
  ∀ b s, Holds known b s →
    Holds known (call.effect b) (access s).1 ∧ Gives (access s).2 (call.reply b)

/-- **Calls that are accepted** go to their access. -/
theorem gives_start (told : Digest.TellsApart known)
    (here : ∀ bytes ∈ call.supplied, known bytes)
    (accepted : checkReference call.reference = .ok ()) :
    ∃ access, Gives call.start (.ok access) ∧ call.Settles known access := by
  cases call with
  | push reference p =>
      refine ⟨_, (gives_prepare (told.mono here) accepted).bind (.pure _), fun b s holds => ?_⟩
      obtain ⟨s', stored, after⟩ := holds.store told here reference
      simp only [stored]
      exact ⟨after, (gives_conclude _ _ _).map _⟩
  | pull reference =>
      refine ⟨_, (gives_inquire accepted).bind (.pure _), fun b s holds => ⟨holds, ?_⟩⟩
      refine Gives.map ?_ _
      have unpacked := gives_unpack reference (s.fetch reference)
      cases bound : b reference with
      | none =>
          rw [MemoryStore.fetch_of_none (holds.absent reference bound)] at unpacked ⊢
          exact unpacked
      | some p =>
          have again : Except.ok p.artifact >>= opened reference = .ok p :=
            opened_artifact (told.mono (holds.supplied reference p bound)) reference
          rw [holds.present reference p bound, again] at unpacked
          rw [holds.present reference p bound]
          exact unpacked

end Call

/-! ## Schedules -/

section Systems

variable {n : Nat} {calls : Fin n → Call}

/-- How far a call has come. -/
inductive Phase where
  | called
  | ready (access : Access)
  | accessed (rest : Logged Reply)
  | returned (reply : Reply)

/-- Calls under way at a store. -/
structure System (n : Nat) where
  /-- The store. -/
  target : MemoryStore := .empty
  /-- How far each call has come. -/
  phases : Fin n → Phase := fun _ => .called
  /-- The calls that have used the store, in that order. -/
  accesses : List (Fin n) := []

namespace System

/-- A call comes to a phase. -/
def enter (s : System n) (i : Fin n) (phase : Phase) : System n :=
  { s with phases := Function.update s.phases i phase }

/-- A call that is ready uses the store. -/
def access (s : System n) (i : Fin n) (access : Access) : System n where
  target := (access s.target).1
  phases := Function.update s.phases i (.accessed (access s.target).2)
  accesses := s.accesses ++ [i]

/-- A call takes its next step. -/
def step (calls : Fin n → Call) (s : System n) (i : Fin n) : Logged (System n) := do
  match s.phases i with
  | .called =>
    match ← (calls i).start with
    | .error reply => return s.enter i (.returned reply)
    | .ok access => return s.enter i (.ready access)
  | .ready access => return s.access i access
  | .accessed rest => return s.enter i (.returned (← rest))
  | .returned _ => return s

/-- Calls take steps in the order of a schedule. -/
def runAll (calls : Fin n → Call) (s : System n) (schedule : List (Fin n)) : Logged (System n) :=
  schedule.foldlM (step calls) s

end System

/-- The packages that were pushed last, in the order of some accesses. -/
def latest (calls : Fin n → Call) (accesses : List (Fin n)) : String → Option Package :=
  accesses.foldl (fun b i => (calls i).effect b) fun _ => none

/-- The accesses before that of a call. -/
def before (accesses : List (Fin n)) (i : Fin n) : List (Fin n) := accesses.takeWhile (· ≠ i)

theorem before_append_of_mem {accesses : List (Fin n)} {i : Fin n} (member : i ∈ accesses)
    (later : List (Fin n)) : before (accesses ++ later) i = before accesses i := by
  induction accesses with
  | nil => cases member
  | cons j rest ih =>
      unfold before at ih ⊢
      by_cases same : j = i
      · simp [same]
      · have further := ih ((List.mem_cons.mp member).resolve_left (Ne.symm same))
        simpa [same] using further

theorem before_append_self {accesses : List (Fin n)} {i : Fin n} (absent : i ∉ accesses) :
    before (accesses ++ [i]) i = accesses := by
  unfold before
  rw [List.takeWhile_append_of_pos]
  · simp
  · intro j member
    exact decide_eq_true fun same => absent (same ▸ member)

/-- The reply that a call has coming, by the accesses. -/
def due (calls : Fin n → Call) (accesses : List (Fin n)) (i : Fin n) : Reply :=
  (calls i).reply (latest calls (before accesses i))

/-- What is true of a call in a phase. -/
def Fits (calls : Fin n → Call) (known : ByteArray → Prop) (accesses : List (Fin n)) (i : Fin n) :
    Phase → Prop
  | .called => i ∉ accesses
  | .ready access => i ∉ accesses ∧ checkReference (calls i).reference = .ok () ∧
    Gives (calls i).start (.ok access) ∧ (calls i).Settles known access
  | .accessed rest => i ∈ accesses ∧ checkReference (calls i).reference = .ok () ∧
    Gives rest (due calls accesses i)
  | .returned reply =>
    (∃ error, checkReference (calls i).reference = .error error ∧ i ∉ accesses ∧
      reply = (calls i).failure error) ∨
    (checkReference (calls i).reference = .ok () ∧ i ∈ accesses ∧ reply = due calls accesses i)

/-- An access of another call changes nothing for a call. -/
theorem Fits.append {accesses : List (Fin n)} {i j : Fin n} {phase : Phase}
    (fits : Fits calls known accesses i phase) (ne : i ≠ j) :
    Fits calls known (accesses ++ [j]) i phase := by
  have absent : i ∉ accesses → i ∉ accesses ++ [j] := fun absent member =>
    (List.mem_append.mp member).elim absent fun last => ne (List.mem_singleton.mp last)
  have present (member : i ∈ accesses) :
      i ∈ accesses ++ [j] ∧ due calls (accesses ++ [j]) i = due calls accesses i := by
    refine ⟨List.mem_append_left _ member, ?_⟩
    unfold due
    rw [before_append_of_mem member]
  cases phase with
  | called => exact absent fits
  | ready access => exact ⟨absent fits.1, fits.2⟩
  | accessed rest =>
      obtain ⟨member, same⟩ := present fits.1
      exact ⟨member, fits.2.1, same ▸ fits.2.2⟩
  | returned reply =>
      rcases fits with ⟨error, refused, missing, failed⟩ | ⟨accepted, member, replied⟩
      · exact Or.inl ⟨error, refused, absent missing, failed⟩
      · obtain ⟨member, same⟩ := present member
        exact Or.inr ⟨accepted, member, replied.trans same.symm⟩

namespace System

/-- The invariant of calls under way. -/
structure Keeps (calls : Fin n → Call) (known : ByteArray → Prop) (s : System n) : Prop where
  /-- The store holds what was pushed last. -/
  holds : Holds known (latest calls s.accesses) s.target
  /-- Every call fits its phase. -/
  fits : ∀ i, Fits calls known s.accesses i (s.phases i)
  /-- One after the other the calls would have left the same store. -/
  sequential : Gives ((s.accesses.mapM fun i => (calls i).perform) .empty)
    (s.accesses.map (due calls s.accesses), s.target)

theorem keeps_start (calls : Fin n → Call) (known : ByteArray → Prop) :
    Keeps calls known {} where
  holds := holds_empty known
  fits _ := List.not_mem_nil
  sequential := .pure _

variable {s s' : System n} {i : Fin n}

theorem Keeps.enter (keeps : Keeps calls known s) {phase : Phase}
    (fits : Fits calls known s.accesses i phase) : Keeps calls known (s.enter i phase) where
  holds := keeps.holds
  fits j := by
    by_cases same : j = i
    · subst same
      simpa [System.enter] using fits
    · simpa [System.enter, Function.update_of_ne same] using keeps.fits j
  sequential := keeps.sequential

theorem Keeps.access (keeps : Keeps calls known s) {access : Access}
    (ready : s.phases i = .ready access) : Keeps calls known (s.access i access) := by
  have fits := keeps.fits i
  rw [ready] at fits
  obtain ⟨absent, accepted, started, settles⟩ := fits
  obtain ⟨holds, replied⟩ := settles _ _ keeps.holds
  have mine : due calls (s.accesses ++ [i]) i = (calls i).reply (latest calls s.accesses) := by
    rw [due, before_append_self absent]
  constructor
  · rw [System.access, latest, List.foldl_append]
    exact holds
  · intro j
    by_cases same : j = i
    · subst same
      simp only [System.access, Function.update_self]
      exact ⟨List.mem_append_right _ List.mem_cons_self, accepted, mine ▸ replied⟩
    · simp only [System.access, Function.update_of_ne same]
      exact (keeps.fits j).append same
  · have others : s.accesses.map (due calls (s.accesses ++ [i])) =
        s.accesses.map (due calls s.accesses) := by
      refine List.map_congr_left fun j member => ?_
      rw [due, before_append_of_mem member, due]
    have last : Gives ((calls i).perform s.target)
        (due calls (s.accesses ++ [i]) i, (access s.target).1) := by
      rw [Call.perform_eq, mine]
      exact started.bind (replied.bind (.pure _))
    simp only [System.access, List.mapM_append, List.map_append, others, List.mapM_cons,
      List.mapM_nil, List.map_cons, List.map_nil, bind_assoc, pure_bind]
    exact keeps.sequential.onward (last.onward (.pure _))

/-- How many steps a call has taken. -/
def taken (s : System n) (i : Fin n) : Nat :=
  match s.phases i with
  | .called => 0
  | .ready _ => 1
  | .accessed _ => 2
  | .returned _ => 3

/-- What a schedule makes of calls under way. -/
structure Leads (calls : Fin n → Call) (known : ByteArray → Prop) (s : System n)
    (schedule : List (Fin n)) (s' : System n) : Prop where
  keeps : Keeps calls known s'
  extends_accesses : s.accesses <+: s'.accesses
  scheduled : ∀ i ∈ s'.accesses, i ∈ s.accesses ∨ i ∈ schedule
  progress : ∀ i, min 3 (s.taken i + schedule.count i) ≤ s'.taken i

theorem Leads.nothing (keeps : Keeps calls known s) : Leads calls known s [] s where
  keeps := keeps
  extends_accesses := List.prefix_rfl
  scheduled _ member := Or.inl member
  progress _ := min_le_right _ _

theorem Leads.trans {s'' : System n} {first second : List (Fin n)}
    (one : Leads calls known s first s') (other : Leads calls known s' second s'') :
    Leads calls known s (first ++ second) s'' where
  keeps := other.keeps
  extends_accesses := one.extends_accesses.trans other.extends_accesses
  scheduled i member := by
    rw [List.mem_append]
    rcases other.scheduled i member with earlier | last
    · exact (one.scheduled i earlier).imp_right Or.inl
    · exact Or.inr (Or.inr last)
  progress i := by
    have before := one.progress i
    have after := other.progress i
    rw [List.count_append]
    omega

/-- A call that enters another phase without using the store. -/
theorem Leads.enter (keeps : Keeps calls known s) {phase : Phase}
    (fits : Fits calls known s.accesses i phase)
    (further : min 3 (s.taken i + 1) ≤ (s.enter i phase).taken i) :
    Leads calls known s [i] (s.enter i phase) where
  keeps := keeps.enter fits
  extends_accesses := List.prefix_rfl
  scheduled _ member := Or.inl member
  progress j := by
    by_cases same : j = i
    · subst same
      simpa using further
    · simp [taken, System.enter, Function.update_of_ne same, Ne.symm same]

theorem Leads.access (keeps : Keeps calls known s) {access : Access}
    (ready : s.phases i = .ready access) : Leads calls known s [i] (s.access i access) where
  keeps := keeps.access ready
  extends_accesses := List.prefix_append _ _
  scheduled j member := List.mem_append.mp member
  progress j := by
    by_cases same : j = i
    · subst same
      simp [taken, System.access, ready]
    · simp [taken, System.access, Function.update_of_ne same, Ne.symm same]

/-- **Steps.** A call that takes a step keeps the invariant. -/
theorem Leads.step (told : Digest.TellsApart known)
    (here : ∀ i, ∀ bytes ∈ (calls i).supplied, known bytes) (keeps : Keeps calls known s)
    (i : Fin n) : ∃ s', Gives (s.step calls i) s' ∧ Leads calls known s [i] s' := by
  have fits := keeps.fits i
  unfold System.step
  cases phase : s.phases i with
  | called =>
      rw [phase] at fits
      cases checked : checkReference (calls i).reference with
      | error error =>
          refine ⟨_, (Call.gives_start_of_error checked).bind (.pure _), .enter keeps ?_ ?_⟩
          · exact Or.inl ⟨error, checked, fits, rfl⟩
          · simp [taken, System.enter]
      | ok _ =>
          obtain ⟨access, started, settles⟩ := Call.gives_start told (here i) checked
          refine ⟨_, started.bind (.pure _), .enter keeps ⟨fits, checked, started, settles⟩ ?_⟩
          simp [taken, System.enter, phase]
  | ready access => exact ⟨_, .pure _, .access keeps phase⟩
  | accessed rest =>
      rw [phase] at fits
      obtain ⟨member, accepted, replied⟩ := fits
      refine ⟨_, replied.bind (.pure _), .enter keeps (Or.inr ⟨accepted, member, rfl⟩) ?_⟩
      simp [taken, System.enter]
  | returned reply =>
      refine ⟨s, .pure _, keeps, List.prefix_rfl, fun _ member => Or.inl member, fun j => ?_⟩
      by_cases same : j = i
      · subst same
        simp [taken, phase]
      · simp [Ne.symm same]

/-- **Runs.** Calls that take steps in any order keep the invariant. -/
theorem Leads.runAll (told : Digest.TellsApart known)
    (here : ∀ i, ∀ bytes ∈ (calls i).supplied, known bytes) (keeps : Keeps calls known s)
    (schedule : List (Fin n)) :
    ∃ s', Gives (s.runAll calls schedule) s' ∧ Leads calls known s schedule s' := by
  induction schedule generalizing s with
  | nil => exact ⟨s, .pure _, .nothing keeps⟩
  | cons i rest ih =>
      obtain ⟨t, stepped, step⟩ := Leads.step told here keeps i
      obtain ⟨s', ran, run⟩ := ih step.keeps
      exact ⟨s', stepped.bind ran, step.trans run⟩

theorem Keeps.accepted_of_mem (keeps : Keeps calls known s) (member : i ∈ s.accesses) :
    checkReference (calls i).reference = .ok () := by
  have fits := keeps.fits i
  cases phase : s.phases i with
  | called =>
      rw [phase] at fits
      exact absurd member fits
  | ready access =>
      rw [phase] at fits
      exact absurd member fits.1
  | accessed rest =>
      rw [phase] at fits
      exact fits.2.1
  | returned reply =>
      rw [phase] at fits
      rcases fits with ⟨error, -, absent, -⟩ | ⟨accepted, -, -⟩
      · exact absurd member absent
      · exact accepted

/-- A call that has returned used the store, if it ever does, before the calls that had no turn
until then. -/
theorem Leads.returned_before {t : System n} {first rest : List (Fin n)} {j : Fin n}
    {reply : Reply} (start : Leads calls known s first t) (further : Leads calls known t rest s')
    (returned : t.phases i = .returned reply) (member : i ∈ s'.accesses)
    (earlier : j ∈ before s'.accesses i) : j ∈ s.accesses ∨ j ∈ first := by
  have used : i ∈ t.accesses := by
    have fits := start.keeps.fits i
    rw [returned] at fits
    rcases fits with ⟨error, refused, -, -⟩ | ⟨-, used, -⟩
    · exact nomatch (further.keeps.accepted_of_mem member).symm.trans refused
    · exact used
  obtain ⟨others, extended⟩ := further.extends_accesses
  rw [← extended, before_append_of_mem used] at earlier
  exact start.scheduled j ((List.takeWhile_prefix _).subset earlier)

end System

/-! ## Linearizability -/

/-- The reference is nothing but blanks. -/
def Blank (reference : String) : Prop := Text.trim reference.toList = []

theorem checkReference_of_blank {reference : String} (blank : Blank reference) :
    checkReference reference = .error (.invalidReference Reference.Fault.empty.message) :=
  if_pos blank

theorem checkReference_of_not_blank {reference : String} (filled : ¬ Blank reference) :
    checkReference reference = .ok () := if_neg filled

/-- A call whose reference is not blank returns its due reply. -/
theorem Fits.reply_eq_due {accesses : List (Fin n)} {i : Fin n} {reply : Reply}
    (fits : Fits calls known accesses i (.returned reply)) (filled : ¬ Blank (calls i).reference) :
    reply = due calls accesses i := by
  rcases fits with ⟨error, refused, -, -⟩ | ⟨-, -, same⟩
  · exact nomatch (checkReference_of_not_blank filled).symm.trans refused
  · exact same

/-- **What calls come to** that take their steps in the order of a schedule. -/
structure Linear (calls : Fin n → Call) (schedule : List (Fin n)) (s : System n) : Prop where
  /-- A call that has had three turns has returned. -/
  returns : ∀ i, 3 ≤ schedule.count i → ∃ reply, s.phases i = .returned reply
  /-- A push succeeds. -/
  pushes : ∀ i reference p reply, calls i = .push reference p → ¬ Blank reference →
    s.phases i = .returned reply → reply = .pushed (.ok ())
  /-- A pull gives back the package that was pushed last before its access. -/
  pulls : ∀ i reference reply, calls i = .pull reference → ¬ Blank reference →
    s.phases i = .returned reply →
      reply = .pulled (found reference (latest calls (before s.accesses i) reference))
  /-- A blank reference is refused, and the store is not used. -/
  refuses : ∀ i, Blank (calls i).reference → i ∉ s.accesses ∧ ∀ reply,
    s.phases i = .returned reply →
      reply = (calls i).failure (.invalidReference Reference.Fault.empty.message)
  /-- The store and the replies are those of the calls made one after the other in the order
  of their accesses. -/
  sequential : ∃ replies, Gives ((s.accesses.mapM fun i => (calls i).perform) .empty)
      (replies, s.target) ∧
    List.Forall₂ (fun i due => ∀ reply, s.phases i = .returned reply → reply = due)
      s.accesses replies
  /-- In that order a call that has returned precedes one that has not had a turn. -/
  ordered : ∀ first rest, schedule = first ++ rest →
    ∃ t, Gives (System.runAll calls {} first) t ∧ ∀ i j reply, t.phases i = .returned reply →
      i ∈ s.accesses → j ∉ first → j ∉ before s.accesses i

/-- **Linearizability.** Calls that push to an empty store and pull from it, each in three
steps, come to what they would come to one after the other, if digests tell apart the byte
strings that are pushed. -/
theorem linearizable (calls : Fin n → Call) (schedule : List (Fin n))
    (told : Digest.TellsApart fun bytes => ∃ i, bytes ∈ (calls i).supplied) :
    ∃ s, Gives (System.runAll calls {} schedule) s ∧ Linear calls schedule s := by
  have here (i : Fin n) : ∀ bytes ∈ (calls i).supplied, ∃ i, bytes ∈ (calls i).supplied :=
    fun bytes member => ⟨i, member⟩
  have keeps := System.keeps_start calls fun bytes => ∃ i, bytes ∈ (calls i).supplied
  obtain ⟨s, ran, run⟩ := System.Leads.runAll told here keeps schedule
  have replied {i : Fin n} {reply : Reply} (returned : s.phases i = .returned reply) :
      Fits calls _ s.accesses i (.returned reply) := returned ▸ run.keeps.fits i
  refine ⟨s, ran, ?_, ?_, ?_, ?_, ?_, ?_⟩
  · intro i turns
    have progress := run.progress i
    cases phase : s.phases i with
    | returned reply => exact ⟨reply, rfl⟩
    | _ =>
        simp only [System.taken, phase] at progress
        omega
  · intro i reference p reply push filled returned
    rw [(replied returned).reply_eq_due (by rwa [push]), due, push, Call.reply]
  · intro i reference reply pull filled returned
    rw [(replied returned).reply_eq_due (by rwa [pull]), due, pull, Call.reply]
  · intro i blank
    have refused := checkReference_of_blank blank
    refine ⟨fun member => ?_, fun reply returned => ?_⟩
    · exact nomatch refused.symm.trans (run.keeps.accepted_of_mem member)
    · rcases replied returned with ⟨error, other, -, same⟩ | ⟨accepted, -, -⟩
      · rw [same, Except.error.inj (other.symm.trans refused)]
      · exact nomatch refused.symm.trans accepted
  · refine ⟨_, run.keeps.sequential, List.forall₂_map_right_iff.mpr ?_⟩
    refine List.forall₂_same.mpr fun i member reply returned => ?_
    rcases replied returned with ⟨-, -, absent, -⟩ | ⟨-, -, same⟩
    · exact absurd member absent
    · exact same
  · rintro first rest rfl
    obtain ⟨t, began, start⟩ := System.Leads.runAll told here keeps first
    obtain ⟨s', went, further⟩ := System.Leads.runAll told here start.keeps rest
    obtain rfl : s' = s := by
      rw [System.runAll, List.foldlM_append] at ran
      exact (began.bind went).unique ran
    refine ⟨t, began, fun i j reply returned member missing earlier => missing ?_⟩
    exact (start.returned_before further returned member earlier).resolve_left List.not_mem_nil

/-- A push and a pull of one reference overlap, and the pull that is under a blank
reference is refused. The program of the package is its configuration. -/
theorem linearizable_overlap :
    let config : Configuration := { info := "probe" }
    let p : Package := { program := config.document.toUTF8, config }
    let calls : Fin 3 → Call := [.push "a" p, .pull "a", .pull " "].get
    let schedule : List (Fin 3) := [0, 1, 1, 0, 2, 0, 1]
    (Digest.TellsApart fun bytes => ∃ i, bytes ∈ (calls i).supplied) ∧
      ∃ s, Gives (System.runAll calls {} schedule) s ∧ Linear calls schedule s := by
  intro config p calls schedule
  have only (bytes : ByteArray) (supplied : ∃ i, bytes ∈ (calls i).supplied) :
      bytes = p.program := by
    obtain ⟨i, member⟩ := supplied
    match i with
    | 0 => exact (List.mem_pair.mp member).elim id id
    | 1 => cases member
    | 2 => cases member
  have told : Digest.TellsApart fun bytes => ∃ i, bytes ∈ (calls i).supplied :=
    fun first second here there _ => (only first here).trans (only second there).symm
  exact ⟨told, linearizable calls schedule told⟩

end Systems

end BpfDepot.Exchange
