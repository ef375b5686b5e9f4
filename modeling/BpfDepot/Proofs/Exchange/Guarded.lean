import BpfDepot.Proofs.Exchange.Interleaving
import BpfDepot.Proofs.Reference.Client

/-! # What is refused without the network

A registry reads the reference, checks the artifact that it is to send and makes the
reference for its client, in that order, and each of these refuses with an error of its own.
Only when all of them pass can the network fail, and it fails for the registry that was read
(`Registry.Guarded`). A push and a pull do the same, because a blank reference, which they
refuse first, would not be read either (`Exchange.guarded_of_registry`).
-/

namespace BpfDepot

open Logged

variable {α β : Type}

/-! ## Failures -/

/-- Whether a failure is one of the network. -/
def Error.FromNetwork : Error → Prop
  | .registry _ _ => True
  | .timeout _ => True
  | _ => False

/-- A result that is a failure is an allowed one. -/
def FailsWith (allowed : Error → Prop) (result : Except Error α) : Prop :=
  ∀ error, result = .error error → allowed error

namespace FailsWith

variable {allowed more : Error → Prop} {result : Except Error α}

theorem ok (a : α) : FailsWith allowed (.ok a) := nofun

theorem error {error : Error} (allows : allowed error) :
    FailsWith allowed (.error error : Except Error α) := by
  rintro _ ⟨⟩
  exact allows

theorem mono (fails : FailsWith allowed result) (weaker : ∀ error, allowed error → more error) :
    FailsWith more result := fun error failed => weaker error (fails error failed)

theorem bind {next : α → Except Error β} (first : FailsWith allowed result)
    (second : ∀ a, result = .ok a → FailsWith allowed (next a)) :
    FailsWith allowed (result >>= next) := by
  cases result with
  | error other => exact .error (first other rfl)
  | ok a => exact second a rfl

theorem mapM {f : α → Except Error β} (each : ∀ a, FailsWith allowed (f a)) (as : List α) :
    FailsWith allowed (as.mapM f) := by
  induction as with
  | nil => exact .ok []
  | cons a as ih =>
      rw [List.mapM_cons]
      exact (each a).bind fun _ _ => ih.bind fun _ _ => .ok _

theorem forM {f : α → Except Error PUnit} (each : ∀ a, FailsWith allowed (f a)) (as : List α) :
    FailsWith allowed (as.forM f) := by
  induction as with
  | nil => exact .ok _
  | cons a as ih => exact (each a).bind fun _ _ => ih

end FailsWith

/-! ## Programs that fail -/

section Programs

variable {program : ExceptT Error Logged α} {next : α → ExceptT Error Logged β}

/-- A program that fails gives what the same steps give without a log. -/
theorem gives_run_bind {result : Except Error α} {after : α → Except Error β}
    (first : Gives program.run result) (second : ∀ a, Gives (next a).run (after a)) :
    Gives (program >>= next).run (result >>= after) := by
  rw [ExceptT.run_bind]
  refine first.bind ?_
  cases result with
  | error error => exact .pure _
  | ok a => exact second a

theorem gives_run_next {a : α} {after : Except Error β} (first : Gives program.run (.ok a))
    (second : Gives (next a).run after) : Gives (program >>= next).run after := by
  rw [ExceptT.run_bind]
  exact first.bind second

theorem gives_run_emit (event : Event) :
    Gives (liftM (Log.emit event : Logged Unit) : ExceptT Error Logged Unit).run (.ok ()) :=
  (Gives.emit event).map Except.ok

/-- A loop that does nothing but tell events gives nothing. -/
theorem gives_run_forIn {step : α → PUnit → ExceptT Error Logged (ForInStep PUnit)}
    (each : ∀ a, Gives (step a ⟨⟩).run (.ok (.yield ⟨⟩))) (as : List α) :
    Gives (forIn as ⟨⟩ step).run (.ok ⟨⟩) := by
  induction as with
  | nil => exact .pure _
  | cons a as ih =>
      rw [List.forIn_cons]
      exact gives_run_next (each a) ih

end Programs

/-! ## Failures that are not of the network -/

/-- No failure of the network comes of a result. -/
def Offline (result : Except Error α) : Prop := FailsWith (¬ ·.FromNetwork) result

/-- Of a failure that does not happen everything is true. -/
theorem Offline.failsWith {Q : Error → Prop} {result : Except Error α} (offline : Offline result) :
    FailsWith (fun error => error.FromNetwork → Q error) result :=
  offline.mono fun _ apart network => absurd network apart

theorem Descriptor.offline_verify (d : Descriptor) (bytes : ByteArray) :
    Offline (d.verify bytes) := by
  unfold verify
  dsimp only
  split_ifs
  · exact .error id
  · exact .error id
  · exact .ok ()

theorem Artifact.offline_verify (a : Artifact) : Offline a.verify := by
  unfold verify
  split_ifs
  · exact .error id
  · exact .forM (fun _ => Descriptor.offline_verify _ _) _

theorem MemoryStore.offline_store (s : MemoryStore) (reference : String) (a : Artifact) :
    Offline (s.store reference a) := a.offline_verify.bind fun _ _ => .ok _

namespace Registry

variable {r : Registry} {text : String} {reference client : Reference}

/-- The failures of the network in an exchange with the registry of a reference. Time runs out
only where there is a limit. -/
inductive Raises (r : Registry) (reference : Reference) : Error → Prop where
  | registry (cause : RequestFault) : Raises r reference (.registry reference.registry cause)
  | timeout (detail : String) {seconds : Nat} (limited : r.settings.timeoutSeconds = some seconds)
      (positive : 0 < seconds) : Raises r reference (.timeout detail)

/-- The failures of the network in a result are those of an exchange with the registry of a
reference. -/
def Attributed (r : Registry) (reference : Reference) (result : Except Error α) : Prop :=
  FailsWith (fun error => error.FromNetwork → r.Raises reference error) result

/-- A result of what is done under the reference in a text depends on the network only if the
text is a reference, a check passes, and the client accepts the reference. -/
structure Guarded (r : Registry) (text : String) (check : Except Error Unit)
    (result : Except Error α) : Prop where
  /-- What is no reference is refused. -/
  unparsed : ∀ fault, Reference.parse text = .error fault →
    result = .error (.invalidReference fault.message)
  /-- What does not pass the check is refused. -/
  unchecked : ∀ reference error, Reference.parse text = .ok reference → check = .error error →
    result = .error error
  /-- A reference that the client does not accept is refused. -/
  unaddressed : ∀ reference fault, Reference.parse text = .ok reference → check = .ok () →
    Client.resolve reference.full = .error fault →
    result = .error (.invalidReference ("'" ++ reference.full ++ "': " ++ fault.message))
  /-- The network fails for nothing but an exchange with the registry that was read. -/
  reached : ∀ error, result = .error error → error.FromNetwork →
    ∃ reference client, Reference.parse text = .ok reference ∧ check = .ok () ∧
      Client.resolve reference.full = .ok client ∧ r.Raises reference error

/-! ## Reading and checking -/

theorem parse_eq (text : String) : parse text =
    (Reference.parse text).mapError fun fault => .invalidReference fault.message := by
  unfold parse
  cases Reference.parse text <;> rfl

theorem parse_eq_ok_iff : parse text = .ok reference ↔ Reference.parse text = .ok reference := by
  rw [parse_eq]
  cases Reference.parse text <;> simp [Except.mapError]

theorem offline_parse (text : String) : Offline (parse text) := by
  rw [parse_eq]
  cases Reference.parse text with
  | error fault => exact .error id
  | ok reference => exact .ok reference

theorem offline_clientReference (reference : Reference) : Offline (clientReference reference) := by
  rw [Reference.clientReference_eq]
  cases Client.resolve reference.full with
  | error fault => exact .error id
  | ok client => exact .ok client

/-! ## Exchanges -/

theorem attributed_settle (verb text : String) (request : Request) (response : Response α) :
    r.Attributed reference (r.settle verb text reference client request response) := by
  cases response with
  | answer a => exact .ok a
  | refusal cause => exact .error fun _ => .registry cause
  | unsent => exact .error fun _ => .registry _
  | silence =>
      unfold settle
      cases limit : r.settings.timeout? with
      | none => exact .error fun _ => .registry _
      | some seconds =>
          obtain ⟨limited, positive⟩ := Option.filter_eq_some_iff.mp limit
          exact .error fun _ => .timeout _ limited (of_decide_eq_true positive)

/-- An exchange begins when the client has accepted the reference. -/
theorem attributed_pullArtifact (accepted : clientReference reference = .ok client) :
    r.Attributed reference (r.pullArtifact text reference) := by
  unfold pullArtifact
  rw [accepted]
  refine (attributed_settle _ _ _ _).bind fun manifest _ => ?_
  refine (attributed_settle _ _ _ _).bind fun config _ => ?_
  exact (FailsWith.mapM (fun _ => attributed_settle _ _ _ _) _).bind fun layers _ => .ok _

theorem pullArtifact_of_error {error : Error} (refused : clientReference reference = .error error) :
    r.pullArtifact text reference = .error error := by
  unfold pullArtifact
  rw [refused]
  rfl

/-- What is done after the check is guarded if the client's reference comes first. -/
theorem guarded_of_steps {check : Except Error Unit} (onward : Reference → Except Error α)
    (offline : Offline check)
    (refuses : ∀ reference error, clientReference reference = .error error →
      onward reference = .error error)
    (attributed : ∀ reference client, clientReference reference = .ok client →
      r.Attributed reference (onward reference)) :
    Guarded r text check (do
      let reference ← parse text
      check
      onward reference) where
  unparsed fault unread := by
    rw [parse_eq, unread]
    rfl
  unchecked reference error read refused := by
    rw [parse_eq_ok_iff.mpr read, refused]
    rfl
  unaddressed reference fault read passed refused := by
    have unaccepted : clientReference reference =
        .error (.invalidReference ("'" ++ reference.full ++ "': " ++ fault.message)) := by
      rw [Reference.clientReference_eq, refused]
      rfl
    rw [parse_eq_ok_iff.mpr read, passed]
    exact refuses reference _ unaccepted
  reached := by
    -- a failure of the network is none of reading or checking, so both have passed
    refine (offline_parse text).failsWith.bind fun reference read => ?_
    refine offline.failsWith.bind fun _ passed => ?_
    cases accepted : clientReference reference with
    | error error =>
        rw [refuses reference error accepted]
        exact .error fun network => absurd network (offline_clientReference reference _ accepted)
    | ok client =>
        refine (attributed reference client accepted).mono fun error raised network => ?_
        exact ⟨reference, client, parse_eq_ok_iff.mp read, passed,
          Reference.clientReference_eq_ok_iff.mp accepted, raised network⟩

/-- What is made of a result without the network is guarded as well. -/
theorem Guarded.bind {check : Except Error Unit} {result : Except Error α}
    {next : α → Except Error β} (guarded : Guarded r text check result)
    (offline : ∀ a, Offline (next a)) : Guarded r text check (result >>= next) where
  unparsed fault unread := by
    rw [guarded.unparsed fault unread]
    rfl
  unchecked reference error read refused := by
    rw [guarded.unchecked reference error read refused]
    rfl
  unaddressed reference fault read passed refused := by
    rw [guarded.unaddressed reference fault read passed refused]
    rfl
  reached := FailsWith.bind guarded.reached fun a _ => (offline a).failsWith

/-! ## Fetching and storing -/

/-- Fetching checks nothing before it asks. -/
theorem guarded_fetch (r : Registry) (text : String) : Guarded r text (.ok ()) (r.fetch text) := by
  let onward (reference : Reference) : Except Error Artifact := do
    let artifact ← r.pullArtifact text reference
    artifact.verify
    return artifact
  refine guarded_of_steps onward (.ok ()) ?_ ?_
  · intro reference error refused
    simp only [onward, pullArtifact_of_error refused]
    rfl
  · intro reference client accepted
    refine (attributed_pullArtifact accepted).bind fun a _ => ?_
    exact a.offline_verify.failsWith.bind fun _ _ => .ok _

/-- What comes of offering an artifact, without what is logged of it. -/
def offered (r : Registry) (text : String) (reference : Reference) (a : Artifact) :
    Except Error String := do
  let client ← clientReference reference
  let _ ← r.settle "push" text reference client .upload
    (r.network.offer (r.scheme client.registry) r.credentials.pair? client a)
  return a.digest

theorem gives_pushArtifact (r : Registry) (text : String) (reference : Reference) (a : Artifact) :
    Gives (r.pushArtifact text reference a).run (r.offered text reference a) := by
  unfold pushArtifact
  refine gives_run_bind (.pure _) fun client => ?_
  refine gives_run_next (gives_run_forIn (fun layer => ?_) _) ?_
  · exact gives_run_next (gives_run_emit _) (.pure _)
  refine gives_run_bind (.pure _) fun url => ?_
  exact gives_run_next (gives_run_emit _) (.pure _)

theorem gives_store (r : Registry) (text : String) (a : Artifact) : Gives (r.store text a) (do
    let reference ← parse text
    a.verify
    r.offered text reference a) := by
  refine gives_run_bind (.pure _) fun reference => ?_
  exact gives_run_bind (.pure _) fun _ => gives_pushArtifact r text reference a

/-- Storing checks the artifact before it is offered. -/
theorem guarded_store (r : Registry) (text : String) (a : Artifact) :
    Guarded r text a.verify (do
      let reference ← parse text
      a.verify
      r.offered text reference a) := by
  refine guarded_of_steps (r.offered text · a) a.offline_verify ?_ ?_
  · intro reference error refused
    unfold offered
    rw [refused]
    rfl
  · intro reference client accepted
    unfold offered
    rw [accepted]
    exact (attributed_settle _ _ _ _).bind fun _ _ => .ok _

end Registry

namespace Exchange

variable {r : Registry} {text : String}

/-! ## Pushing and pulling -/

theorem offline_unstage (reference : String) (s : MemoryStore) : Offline (unstage reference s) := by
  unfold unstage
  refine FailsWith.bind ?program fun program _ => FailsWith.bind ?config fun bytes _ => ?_
  case program =>
    beta_reduce
    cases s.getByName? Package.programName with
    | none => exact .error id
    | some file => exact .ok file.2
  case config =>
    beta_reduce
    cases s.getByName? Configuration.fileName with
    | none => exact .error id
    | some file => exact .ok file.2
  cases Configuration.decode bytes with
  | error message => exact .error id
  | ok config => exact .ok _

theorem offline_opened (reference : String) (a : Artifact) : Offline (opened reference a) :=
  (MemoryStore.offline_store _ reference a).bind fun stored _ => offline_unstage reference stored.1

/-- A blank reference, which is refused first, would be refused as it is read. -/
theorem guarded_checked {check : Except Error Unit} {result : Except Error α}
    (guarded : r.Guarded text check result) :
    r.Guarded text check (do
      checkReference text
      result) := by
  have same : (do
      checkReference text
      result) = result := by
    by_cases blank : Blank text
    · have unread : Reference.parse text = .error .empty := if_pos blank
      rw [checkReference_of_blank blank, guarded.unparsed _ unread]
      rfl
    · rw [checkReference_of_not_blank blank]
      rfl
  rw [same]
  exact guarded

theorem gives_copy_registry {s : MemoryStore} {a : Artifact} {stored : Except Error String}
    (fetched : s.fetch text = .ok a) (sent : Gives (r.store text a) stored) :
    Gives ((Target.memory s).copy text (.registry r) text) (.registry r, stored) := by
  have same : Target.copyReference text text = text := ite_id text
  unfold Target.copy Target.take Target.fetch
  simp only [same, fetched]
  refine ((Gives.emit _).bind (.pure (Except.ok a))).bind ?_
  exact sent.bind (.pure _)

theorem gives_push_registry {p : Package} {s : MemoryStore} {a : Artifact} {digest : String}
    {stored : Except Error String} (onto : stage text p = .ok (s, digest))
    (fetched : s.fetch text = .ok a) (sent : Gives (r.store text a) stored) :
    Gives (push (.registry r) text p) (.registry r, do
      checkReference text
      let _ ← stored
      return ()) := by
  cases accepted : checkReference text with
  | error error => exact gives_push_of_error accepted _ p
  | ok _ =>
      have pushed := gives_push accepted onto (gives_copy_registry fetched sent)
      cases stored <;> exact pushed

/-- **Guarded requests.** A registry sees only what passes every check that needs no registry.
Storing refuses what is no reference, then an artifact that does not verify, then what the
client does not accept, and only then can the network fail. Fetching does the same without an
artifact to verify. A push stores what is on the stage of its package and a pull fetches, each
after it refused a blank reference. -/
theorem guarded_of_registry (r : Registry) (text : String) :
    (∀ a, ∃ stored, Gives (r.store text a) stored ∧ r.Guarded text a.verify stored) ∧
    r.Guarded text (.ok ()) (r.fetch text) ∧
    (∀ p, ∃ s digest a stored pushed,
      stage text p = .ok (s, digest) ∧ s.fetch text = .ok a ∧ Gives (r.store text a) stored ∧
      Gives (push (.registry r) text p) (.registry r, pushed) ∧
      pushed = (do checkReference text; let _ ← stored; return ()) ∧
      r.Guarded text a.verify pushed) ∧
    ∃ pulled, Gives (pull (.registry r) text) pulled ∧
      pulled = (do checkReference text; let a ← r.fetch text; opened text a) ∧
      r.Guarded text (.ok ()) pulled := by
  refine ⟨?storing, r.guarded_fetch text, ?pushing, ?pulling⟩
  case storing => exact fun a => ⟨_, r.gives_store text a, r.guarded_store text a⟩
  case pushing =>
    intro p
    obtain ⟨s, onto⟩ := stage_eq text p
    obtain ⟨a, fetched, -⟩ := exists_fetch_of_stage onto
    have guarded := (r.guarded_store text a).bind fun _ => FailsWith.ok ()
    have sent := r.gives_store text a
    exact ⟨s, p.digest, a, _, _, onto, fetched, sent, gives_push_registry onto fetched sent, rfl,
      guarded_checked guarded⟩
  case pulling =>
    have guarded := (r.guarded_fetch text).bind (offline_opened text)
    exact ⟨_, gives_pull (.registry r) text, rfl, guarded_checked guarded⟩

-- a silent registry is given up after the limit
example : ({ settings := { timeoutSeconds := some 5 }, network := .silent } : Registry).fetch
    "probe" = .error (.timeout "pull probe did not finish within 5s") := by decide +kernel

-- zero is no limit
example : ({ settings := { timeoutSeconds := some 0 }, network := .silent } : Registry).fetch
    "localhost/probe" = .error (.registry "localhost"
      (.notSent "https://localhost/v2/probe/manifests/latest")) := by decide +kernel

end Exchange

end BpfDepot
