import BpfDepot.Proofs.MemoryStore.Contents
import BpfDepot.Proofs.Target

/-! # What a memory store answers after calls

The calls of a store (`MemoryStore.Call`) with what became of them are its history. A
history says which manifest each reference has and which descriptor each title
(`MemoryStore.Ledger.ofHistory`): those of the latest call that succeeded in binding them.
A call that fails leaves the store as it was, so a run is made of the calls that succeed
(`MemoryStore.Steps`). A call that succeeds leaves the store sound
(`MemoryStore.Sound.outcome`), and the ledger goes on describing it
(`MemoryStore.Ledger.Describes.outcome`). So after any calls a store that was empty answers
as its history says (`MemoryStore.refines_artifacts`).
-/

namespace BpfDepot.MemoryStore

variable {known : ByteArray → Prop} {s s' : MemoryStore} {reference : String}

/-! ## Calls -/

/-- What changes a store, or copies from it. -/
inductive Call where
  | add (name mediaType : String) (bytes : ByteArray)
  | set (descriptor : Descriptor) (bytes : ByteArray)
  | storeManifest (reference : String) (manifest : Manifest)
  | store (reference : String) (artifact : Artifact)
  /-- Copies from another target to the store. -/
  | copyFrom (source : Target) (sourceReference reference : String)
  /-- Copies from the store to itself. -/
  | copyWithin (sourceReference reference : String)
  /-- Copies from the store to another target. -/
  | copyTo (destination : Target) (sourceReference reference : String)

/-- Calls with what became of them. -/
abbrev History := List (Call × Except Error Unit)

namespace Call

/-- The byte strings that a call brings. -/
def supplied : Call → List ByteArray
  | .add _ _ bytes | .set _ bytes => [bytes]
  | .store _ artifact => artifact.contents
  | .copyFrom source sourceReference _ =>
    match source.fetch sourceReference with
    | .ok artifact => artifact.contents
    | .error _ => []
  | .storeManifest _ _ | .copyWithin _ _ | .copyTo _ _ _ => []

/-- The reference that a call binds when it succeeds. -/
def bound? : Call → Option String
  | .storeManifest reference _ | .store reference _ => some reference
  | .copyFrom _ sourceReference reference | .copyWithin sourceReference reference =>
    some (Target.copyReference sourceReference reference)
  | .add _ _ _ | .set _ _ | .copyTo _ _ _ => none

/-- Takes over the store that a step makes, unless the step fails. -/
def settle (outcome : Except Error MemoryStore) : StateT MemoryStore Logged (Except Error Unit) :=
  modifyGet fun s => match outcome with
    | .ok s' => (.ok (), s')
    | .error error => (.error error, s)

/-- Copies an artifact to the store. -/
def copy (source : Target) (sourceReference reference : String) :
    StateT MemoryStore Logged (Except Error Unit) := fun s => do
  let (target, result) ← source.copy sourceReference (.memory s) reference
  let s' := match target with
    | .memory s' => s'
    | .registry _ => s
  return (result.map fun _ => (), s')

/-- Carries out a call. -/
def perform : Call → StateT MemoryStore Logged (Except Error Unit)
  | .add name mediaType bytes => do settle (.ok ((← get).add name mediaType bytes).1)
  | .set descriptor bytes => do settle ((← get).set descriptor bytes)
  | .storeManifest reference manifest => do
    settle (((← get).storeManifest reference manifest).map Prod.fst)
  | .store reference artifact => do settle (((← get).store reference artifact).map Prod.fst)
  | .copyFrom source sourceReference reference => copy source sourceReference reference
  | .copyWithin sourceReference reference => do
    copy (.memory (← get)) sourceReference reference
  | .copyTo destination sourceReference reference => fun s => do
    let (_, result) ← (Target.memory s).copy sourceReference destination reference
    return (result.map fun _ => (), s)

/-- Carries out calls one after the other, also when some of them fail, and gives back
what became of each. -/
def performAll (calls : List Call) : StateT MemoryStore Logged History :=
  calls.mapM fun call => do return (call, ← call.perform)

/-- After the first call the other ones go on from the store that it leaves. -/
theorem performAll_cons {call : Call} {rest : List Call} {s t s' : MemoryStore}
    {events between events' : List Event} {result : Except Error Unit} {history : History}
    (performed : call.perform s events = ((result, t), between))
    (ran : performAll rest t between = ((history, s'), events')) :
    performAll (call :: rest) s events = (((call, result) :: history, s'), events') := by
  have noted : (do return (call, ← call.perform) : StateT MemoryStore Logged _) s events =
      (((call, result), t), between) := by
    simp only [Bind.bind, StateT.bind, performed]
    rfl
  unfold performAll at ran ⊢
  rw [List.mapM_cons]
  simp only [Bind.bind, StateT.bind] at noted ran ⊢
  rw [noted]
  simp only [ran]
  rfl

/-- The store after a copy to it. -/
def copied (s : MemoryStore) (source : Target) (sourceReference reference : String) :
    Except Error MemoryStore := do
  let artifact ← source.fetch sourceReference
  (s.store (Target.copyReference sourceReference reference) artifact).map Prod.fst

/-- The store after a call that succeeds. -/
def outcome (s : MemoryStore) : Call → Except Error MemoryStore
  | .add name mediaType bytes => .ok (s.add name mediaType bytes).1
  | .set descriptor bytes => s.set descriptor bytes
  | .storeManifest reference manifest => (s.storeManifest reference manifest).map Prod.fst
  | .store reference artifact => (s.store reference artifact).map Prod.fst
  | .copyFrom source sourceReference reference => copied s source sourceReference reference
  | .copyWithin sourceReference reference => copied s (.memory s) sourceReference reference
  | .copyTo _ _ _ => .ok s

/-- What is left when a step is taken over. -/
theorem settle_cases (outcome : Except Error MemoryStore) (s : MemoryStore)
    (events : List Event) :
    ∃ result s', (settle outcome s events).1 = (result, s') ∧
      ((∃ error, result = .error error ∧ s' = s) ∨ (result = .ok () ∧ outcome = .ok s')) := by
  cases outcome with
  | ok s' => exact ⟨_, _, rfl, Or.inr ⟨rfl, rfl⟩⟩
  | error error => exact ⟨_, _, rfl, Or.inl ⟨error, rfl, rfl⟩⟩

theorem copy_cases (source : Target) (sourceReference reference : String) (s : MemoryStore)
    (events : List Event) :
    ∃ result s', (copy source sourceReference reference s events).1 = (result, s') ∧
      ((∃ error, result = .error error ∧ s' = s) ∨
        (result = .ok () ∧ copied s source sourceReference reference = .ok s')) := by
  suffices left : ∃ result s', Logged.Gives (copy source sourceReference reference s)
      (result, s') ∧ ((∃ error, result = .error error ∧ s' = s) ∨
        (result = .ok () ∧ copied s source sourceReference reference = .ok s')) by
    obtain ⟨result, s', copies, cases⟩ := left
    exact ⟨result, s', copies events, cases⟩
  have same : copied s source sourceReference reference =
      (source.delivery sourceReference s reference).map Prod.fst := by
    unfold copied Target.delivery
    cases source.fetch sourceReference <;> rfl
  have copies := Target.gives_copy source sourceReference s reference
  rw [same]
  cases outcome : source.delivery sourceReference s reference with
  | error error =>
      rw [outcome] at copies
      exact ⟨_, s, copies.bind (.pure _), Or.inl ⟨error, rfl, rfl⟩⟩
  | ok done =>
      rw [outcome] at copies
      exact ⟨_, done.1, copies.bind (.pure _), Or.inr ⟨rfl, rfl⟩⟩

/-- **Failures.** A call that fails leaves the store as it was. -/
theorem perform_cases (call : Call) (s : MemoryStore) (events : List Event) :
    ∃ result s', (call.perform s events).1 = (result, s') ∧
      ((∃ error, result = .error error ∧ s' = s) ∨
        (result = .ok () ∧ call.outcome s = .ok s')) := by
  cases call with
  | add name mediaType bytes => exact settle_cases (.ok _) s events
  | set descriptor bytes => exact settle_cases (s.set descriptor bytes) s events
  | storeManifest reference manifest =>
      exact settle_cases ((s.storeManifest reference manifest).map Prod.fst) s events
  | store reference artifact =>
      exact settle_cases ((s.store reference artifact).map Prod.fst) s events
  | copyFrom source sourceReference reference =>
      exact copy_cases source sourceReference reference s events
  | copyWithin sourceReference reference =>
      exact copy_cases (.memory s) sourceReference reference s events
  | copyTo destination sourceReference reference =>
      let copied : Logged _ := (Target.memory s).copy sourceReference destination reference
      refine ⟨(copied events).1.2.map fun _ => (), s, rfl, ?_⟩
      cases (copied events).1.2 with
      | error error => exact Or.inl ⟨error, rfl, rfl⟩
      | ok digest => exact Or.inr ⟨rfl, rfl⟩

theorem map_fst_eq_ok_iff {ε α β : Type} {result : Except ε (α × β)} {a : α} :
    result.map Prod.fst = .ok a ↔ ∃ b, result = .ok (a, b) := by
  cases result with
  | error error => exact ⟨nofun, nofun⟩
  | ok done =>
      constructor
      · rintro ⟨⟩
        exact ⟨done.2, rfl⟩
      · rintro ⟨_, ⟨⟩⟩
        rfl

/-- A copy that succeeds stores the artifact that it fetches. -/
theorem copied_eq_ok_iff {source : Target} {sourceReference : String} :
    copied s source sourceReference reference = .ok s' ↔ ∃ artifact digest,
      source.fetch sourceReference = .ok artifact ∧
        s.store (Target.copyReference sourceReference reference) artifact = .ok (s', digest) := by
  unfold copied
  cases source.fetch sourceReference with
  | error error => exact ⟨nofun, fun ⟨_, _, impossible, _⟩ => nomatch impossible⟩
  | ok artifact =>
      refine map_fst_eq_ok_iff.trans ⟨fun ⟨digest, stored⟩ => ⟨artifact, digest, rfl, stored⟩, ?_⟩
      rintro ⟨_, digest, ⟨⟩, stored⟩
      exact ⟨digest, stored⟩

end Call

/-- What calls make of a store one after the other, with what becomes of each. -/
inductive Steps : MemoryStore → History → MemoryStore → Prop
  | nothing (s : MemoryStore) : Steps s [] s
  | failed {s s' : MemoryStore} {call : Call} {error : Error} {history : History} :
      Steps s history s' → Steps s ((call, .error error) :: history) s'
  | done {s t s' : MemoryStore} {call : Call} {history : History} :
      call.outcome s = .ok t → Steps t history s' → Steps s ((call, .ok ()) :: history) s'

/-- **Runs.** Whatever has been logged before them, calls make of a store what their steps make
of it. -/
theorem Call.performAll_steps (calls : List Call) (s : MemoryStore) (events : List Event) :
    ∃ history s' events', performAll calls s events = ((history, s'), events') ∧
      history.map Prod.fst = calls ∧ Steps s history s' := by
  induction calls generalizing s events with
  | nil => exact ⟨[], s, events, rfl, rfl, .nothing s⟩
  | cons call rest ih =>
      obtain ⟨result, t, performed, either⟩ := call.perform_cases s events
      obtain ⟨between, stepped⟩ : ∃ between, call.perform s events = ((result, t), between) :=
        ⟨_, Prod.ext performed rfl⟩
      obtain ⟨history, s', events', ran, listed, steps⟩ := ih t between
      refine ⟨(call, result) :: history, s', events', performAll_cons stepped ran, ?_, ?_⟩
      · rw [List.map_cons, listed]
      · obtain ⟨error, rfl, rfl⟩ | ⟨rfl, done⟩ := either
        · exact .failed steps
        · exact .done done steps

/-! ## Ledgers -/

/-- What a history says: the manifest of each reference, and the descriptor of each
title. -/
structure Ledger where
  manifests : String → Option Manifest
  titles : String → Option Descriptor

namespace Ledger

/-- Nothing has been said. -/
def blank : Ledger := ⟨fun _ => none, fun _ => none⟩

/-- Descriptors come in one after the other, and each one takes its title. -/
def entitle (l : Ledger) (descriptors : List Descriptor) : Ledger :=
  { l with titles := descriptors.foldl (fun titles descriptor name =>
      if descriptor.title? = some name then some descriptor else titles name) l.titles }

/-- A manifest comes in under a reference. -/
def record (l : Ledger) (reference : String) (manifest : Manifest) : Ledger :=
  { l with manifests := fun other =>
      if other = reference then some manifest else l.manifests other }

/-- A manifest comes in under a reference after its blobs. -/
def accept (l : Ledger) (reference : String) (manifest : Manifest) : Ledger :=
  (l.entitle manifest.blobs).record reference manifest

/-- The ledger after a call that succeeds. -/
def after (l : Ledger) : Call → Ledger
  | .add name mediaType bytes => l.entitle [Descriptor.ofBlob name mediaType bytes none]
  | .set descriptor _ => l.entitle [descriptor]
  | .storeManifest reference manifest => l.record reference manifest
  | .store reference artifact => l.accept reference artifact.manifest
  | .copyFrom source sourceReference reference =>
    match source.fetch sourceReference with
    | .ok artifact =>
      l.accept (Target.copyReference sourceReference reference) artifact.manifest
    | .error _ => l
  | .copyWithin sourceReference reference =>
    match l.manifests sourceReference with
    | some manifest => l.accept (Target.copyReference sourceReference reference) manifest
    | none => l
  | .copyTo _ _ _ => l

/-- The ledger after calls of which it is known whether they succeeded. -/
def along (l : Ledger) (history : History) : Ledger :=
  history.foldl (fun l entry => if entry.2.isOk then l.after entry.1 else l) l

/-- The ledger of a history that starts with nothing. -/
def ofHistory (history : History) : Ledger := blank.along history

/-- The ledger says what the manifests and the titles of a store are. -/
structure Describes (l : Ledger) (s : MemoryStore) : Prop where
  manifests : ∀ reference, s.manifest? reference = l.manifests reference
  titles : ∀ name, s.names.get? name = l.titles name

variable {l : Ledger}

theorem describes_empty : blank.Describes empty := ⟨fun _ => rfl, fun _ => rfl⟩

namespace Describes

theorem ingest (describes : l.Describes s) (blobs : List (Descriptor × ByteArray)) :
    (l.entitle (blobs.map Prod.fst)).Describes (s.ingest blobs) := by
  refine ⟨fun reference => (manifest?_ingest s blobs reference).trans (describes.manifests _), ?_⟩
  have titles := describes.titles
  clear describes
  unfold entitle
  induction blobs generalizing s l with
  | nil => exact titles
  | cons blob rest ih =>
      refine ih (l := l.entitle [blob.1]) fun name => ?_
      rw [names_insertBlob, titles name]
      rfl

theorem record (describes : l.Describes s) (reference : String) (manifest : Manifest) :
    (l.record reference manifest).Describes (s.record reference manifest) := by
  refine ⟨fun other => ?_, describes.titles⟩
  rw [manifest?_record, describes.manifests]
  rfl

/-- An artifact that is stored is accepted. -/
theorem store (describes : l.Describes s) {artifact : Artifact} {digest : String}
    (stored : s.store reference artifact = .ok (s', digest)) :
    (l.accept reference artifact.manifest).Describes s' := by
  obtain ⟨verified, rfl, -⟩ := store_eq_ok_iff.mp stored
  have listed : artifact.blobs.map Prod.fst = artifact.manifest.blobs := by
    have counted := (Artifact.verify_eq_ok_iff.mp verified).1
    rw [Artifact.blobs, List.map_cons, List.map_fst_zip (le_of_eq counted.symm), Manifest.blobs]
  rw [accept, ← listed]
  exact (describes.ingest artifact.blobs).record reference artifact.manifest

/-- A ledger goes on describing a store when a call succeeds. -/
theorem outcome (describes : l.Describes s) {call : Call} (done : call.outcome s = .ok s') :
    (l.after call).Describes s' := by
  cases call with
  | add name mediaType bytes =>
      obtain rfl := Except.ok.inj done
      rw [add_eq]
      exact describes.ingest [(_, bytes)]
  | set descriptor bytes =>
      obtain ⟨-, rfl⟩ := set_eq_ok_iff.mp done
      exact describes.ingest [(descriptor, bytes)]
  | storeManifest reference manifest =>
      obtain ⟨digest, stored⟩ := Call.map_fst_eq_ok_iff.mp done
      obtain ⟨-, rfl, -⟩ := storeManifest_eq_ok_iff.mp stored
      exact describes.record reference manifest
  | store reference artifact =>
      obtain ⟨digest, stored⟩ := Call.map_fst_eq_ok_iff.mp done
      exact describes.store stored
  | copyFrom source sourceReference reference =>
      obtain ⟨artifact, digest, fetched, stored⟩ := Call.copied_eq_ok_iff.mp done
      rw [after, fetched]
      exact describes.store stored
  | copyWithin sourceReference reference =>
      obtain ⟨artifact, digest, fetched, stored⟩ := Call.copied_eq_ok_iff.mp done
      rw [after, ← describes.manifests, (fetch_eq_ok_iff.mp fetched).1]
      exact describes.store stored
  | copyTo destination sourceReference reference =>
      obtain rfl := Except.ok.inj done
      exact describes

end Describes

end Ledger

/-- A call that succeeds and brings known byte strings keeps the blobs of a sound store and
leaves it sound. -/
theorem Sound.outcome (sound : Sound known s) (told : Digest.TellsApart known) {call : Call}
    (here : ∀ bytes ∈ call.supplied, known bytes) (done : call.outcome s = .ok s') :
    Sound known s' ∧ Within s s' := by
  cases call with
  | add name mediaType bytes =>
      obtain rfl := Except.ok.inj done
      have fits := Descriptor.verify_ofBlob name mediaType bytes none
      have first := here bytes List.mem_cons_self
      rw [add_eq]
      exact ⟨sound.insertBlob told fits first, sound.within_insertBlob told fits first⟩
  | set descriptor bytes =>
      obtain ⟨fits, rfl⟩ := set_eq_ok_iff.mp done
      have first := here bytes List.mem_cons_self
      exact ⟨sound.insertBlob told fits first, sound.within_insertBlob told fits first⟩
  | storeManifest reference manifest =>
      obtain ⟨digest, stored⟩ := Call.map_fst_eq_ok_iff.mp done
      obtain ⟨complete, rfl, -⟩ := storeManifest_eq_ok_iff.mp stored
      exact ⟨sound.record complete reference, Within.refl s⟩
  | store reference artifact =>
      obtain ⟨digest, stored⟩ := Call.map_fst_eq_ok_iff.mp done
      obtain ⟨after, within, -⟩ := sound.store told here stored
      exact ⟨after, within⟩
  | copyFrom source sourceReference reference =>
      obtain ⟨artifact, digest, fetched, stored⟩ := Call.copied_eq_ok_iff.mp done
      simp only [Call.supplied, fetched] at here
      obtain ⟨after, within, -⟩ := sound.store told here stored
      exact ⟨after, within⟩
  | copyWithin sourceReference reference =>
      obtain ⟨artifact, digest, fetched, stored⟩ := Call.copied_eq_ok_iff.mp done
      have holds := (fetch_eq_ok_iff.mp fetched).2
      obtain ⟨after, within, -⟩ := sound.store told (sound.known_of_holds holds) stored
      exact ⟨after, within⟩
  | copyTo destination sourceReference reference =>
      obtain rfl := Except.ok.inj done
      exact ⟨sound, Within.refl _⟩

theorem manifest?_store {artifact : Artifact} {digest : String}
    (stored : s.store reference artifact = .ok (s', digest)) (other : String) :
    s'.manifest? other =
      if other = reference then some artifact.manifest else s.manifest? other := by
  obtain ⟨-, rfl, -⟩ := store_eq_ok_iff.mp stored
  rw [manifest?_record, manifest?_ingest]

/-- A call that succeeds binds the reference that it names, and no other one. -/
theorem manifest?_of_outcome {call : Call} (done : call.outcome s = .ok s') :
    (call.bound? = none ∧ ∀ other, s'.manifest? other = s.manifest? other) ∨
      ∃ reference manifest, call.bound? = some reference ∧ ∀ other, s'.manifest? other =
        if other = reference then some manifest else s.manifest? other := by
  cases call with
  | add name mediaType bytes =>
      obtain rfl := Except.ok.inj done
      exact Or.inl ⟨rfl, fun _ => rfl⟩
  | set descriptor bytes =>
      obtain ⟨-, rfl⟩ := set_eq_ok_iff.mp done
      exact Or.inl ⟨rfl, fun _ => rfl⟩
  | storeManifest reference manifest =>
      obtain ⟨digest, stored⟩ := Call.map_fst_eq_ok_iff.mp done
      obtain ⟨-, rfl, -⟩ := storeManifest_eq_ok_iff.mp stored
      exact Or.inr ⟨reference, manifest, rfl, manifest?_record s reference manifest⟩
  | store reference artifact =>
      obtain ⟨digest, stored⟩ := Call.map_fst_eq_ok_iff.mp done
      exact Or.inr ⟨reference, artifact.manifest, rfl, manifest?_store stored⟩
  | copyFrom source sourceReference reference =>
      obtain ⟨artifact, digest, -, stored⟩ := Call.copied_eq_ok_iff.mp done
      exact Or.inr ⟨_, artifact.manifest, rfl, manifest?_store stored⟩
  | copyWithin sourceReference reference =>
      obtain ⟨artifact, digest, -, stored⟩ := Call.copied_eq_ok_iff.mp done
      exact Or.inr ⟨_, artifact.manifest, rfl, manifest?_store stored⟩
  | copyTo destination sourceReference reference =>
      obtain rfl := Except.ok.inj done
      exact Or.inl ⟨rfl, fun _ => rfl⟩

/-! ## Histories -/

/-- A call of the history succeeded in binding the reference. -/
def History.Binds (history : History) (reference : String) : Prop :=
  ∃ call, (call, .ok ()) ∈ history ∧ call.bound? = some reference

theorem History.binds_append_iff {history later : History} :
    (history ++ later).Binds reference ↔ history.Binds reference ∨ later.Binds reference := by
  unfold Binds
  simp only [List.mem_append, or_and_right, exists_or]

/-- What calls with a history leave of a sound store that a ledger describes. -/
structure Leads (known : ByteArray → Prop) (l : Ledger) (s : MemoryStore) (history : History)
    (s' : MemoryStore) : Prop where
  sound : Sound known s'
  within : Within s s'
  describes : (l.along history).Describes s'
  kept : ∀ reference, ¬ history.Binds reference → s'.manifest? reference = s.manifest? reference
  bound : ∀ reference, history.Binds reference → (s'.manifest? reference).isSome

namespace Leads

variable {l : Ledger} {s'' : MemoryStore} {history later : History}

theorem nothing (sound : Sound known s) (describes : l.Describes s) : Leads known l s [] s where
  sound := sound
  within := Within.refl s
  describes := describes
  kept _ _ := rfl
  bound _ := nofun

theorem trans (first : Leads known l s history s')
    (second : Leads known (l.along history) s' later s'') :
    Leads known l s (history ++ later) s'' where
  sound := second.sound
  within := first.within.trans second.within
  describes := by
    rw [Ledger.along, List.foldl_append]
    exact second.describes
  kept reference unbound := by
    rw [History.binds_append_iff, not_or] at unbound
    rw [second.kept reference unbound.2, first.kept reference unbound.1]
  bound reference bound := by
    by_cases last : later.Binds reference
    · exact second.bound reference last
    · rw [second.kept reference last]
      exact first.bound reference ((History.binds_append_iff.mp bound).resolve_right last)

/-- A call that fails leaves a store as its history says. -/
theorem failed (sound : Sound known s) (describes : l.Describes s) (call : Call) (error : Error) :
    Leads known l s [(call, .error error)] s where
  sound := sound
  within := Within.refl s
  describes := describes
  kept _ _ := rfl
  bound _ := fun ⟨_, member, _⟩ => nomatch List.mem_singleton.mp member

/-- **Steps.** A call that succeeds and brings known byte strings leaves a store as its history
says. -/
theorem done (sound : Sound known s) (told : Digest.TellsApart known)
    (describes : l.Describes s) {call : Call} (here : ∀ bytes ∈ call.supplied, known bytes)
    (done : call.outcome s = .ok s') : Leads known l s [(call, .ok ())] s' := by
  obtain ⟨after, within⟩ := sound.outcome told here done
  have binds (reference : String) :
      History.Binds [(call, .ok ())] reference ↔ call.bound? = some reference := by
    simp [History.Binds]
  refine ⟨after, within, describes.outcome done, fun reference unbound => ?_,
    fun reference bound => ?_⟩
  · rw [binds] at unbound
    obtain ⟨-, same⟩ | ⟨named, manifest, same, recorded⟩ := manifest?_of_outcome done
    · exact same reference
    · rw [recorded, if_neg fun equal => unbound (same.trans (congrArg some equal.symm))]
  · rw [binds] at bound
    obtain ⟨none, -⟩ | ⟨named, manifest, same, recorded⟩ := manifest?_of_outcome done
    · exact nomatch none.symm.trans bound
    · rw [recorded, if_pos (Option.some.inj (bound.symm.trans same)), Option.isSome_some]

theorem of_steps (steps : Steps s history s') (sound : Sound known s)
    (told : Digest.TellsApart known) (describes : l.Describes s)
    (here : ∀ call ∈ history.map Prod.fst, ∀ bytes ∈ call.supplied, known bytes) :
    Leads known l s history s' := by
  induction steps generalizing l with
  | nothing s => exact nothing sound describes
  | failed _ ih =>
      obtain ⟨-, others⟩ := List.forall_mem_cons.mp here
      exact (failed sound describes _ _).trans (ih sound describes others)
  | done succeeded _ ih =>
      obtain ⟨first, others⟩ := List.forall_mem_cons.mp here
      have step := done sound told describes first succeeded
      exact step.trans (ih step.sound step.describes others)

/-- **Runs.** Any calls that bring known byte strings leave a store as their history says. -/
theorem performAll (sound : Sound known s) (told : Digest.TellsApart known)
    (describes : l.Describes s) (calls : List Call)
    (here : ∀ call ∈ calls, ∀ bytes ∈ call.supplied, known bytes) (events : List Event) :
    ∃ history s' events', Call.performAll calls s events = ((history, s'), events') ∧
      history.map Prod.fst = calls ∧ Leads known l s history s' := by
  obtain ⟨history, s', events', ran, rfl, steps⟩ := Call.performAll_steps calls s events
  exact ⟨history, s', events', ran, rfl, of_steps steps sound told describes here⟩

end Leads

/-! ## Answers -/

/-- **What a store answers** after calls, if it was empty before them. -/
structure Answers (history : History) (s : MemoryStore) : Prop where
  /-- Every blob lies under its digest. -/
  keyed : ∀ digest bytes, s.blobs.get? digest = some bytes → Digest.ofBytes bytes = digest
  /-- Every blob of every manifest is there. -/
  complete : ∀ reference manifest, s.manifest? reference = some manifest →
    ∀ blob ∈ manifest.blobs, ∃ bytes, s.blobs.get? blob.digest = some bytes
  /-- An artifact is missing exactly if its reference was not bound. -/
  missing : ∀ reference,
    s.fetch reference = .error (.notFound reference) ↔ ¬ history.Binds reference
  /-- Else it has the manifest that was bound last, with blobs that have the digests. -/
  fetched : ∀ reference, history.Binds reference → ∃ artifact,
    (Ledger.ofHistory history).manifests reference = some artifact.manifest ∧
      s.fetch reference = .ok artifact ∧
      Digest.ofBytes artifact.config = artifact.manifest.config.digest ∧
      List.Forall₂ (fun descriptor bytes => Digest.ofBytes bytes = descriptor.digest)
        artifact.manifest.layers artifact.layers
  /-- A title that has not come in gives nothing. -/
  untitled : ∀ name, (Ledger.ofHistory history).titles name = none → s.getByName? name = none
  /-- Else it gives the descriptor that came in last under it, with a blob that fits. -/
  titled : ∀ name descriptor, (Ledger.ofHistory history).titles name = some descriptor →
    ∃ bytes, s.getByName? name = some (descriptor, bytes) ∧ descriptor.verify bytes = .ok ()

theorem Leads.answers {history : History} (leads : Leads known .blank empty history s) :
    Answers history s := by
  have bound (reference : String) :
      history.Binds reference ↔ (s.manifest? reference).isSome := by
    refine ⟨leads.bound reference, fun some => ?_⟩
    by_contra unbound
    rw [leads.kept reference unbound] at some
    cases some
  constructor
  · exact fun digest bytes found => (leads.sound.keyed digest bytes found).2
  · exact leads.sound.complete
  · intro reference
    rw [bound]
    cases stored : s.manifest? reference with
    | none => exact iff_of_true (fetch_of_none stored) nofun
    | some manifest =>
        obtain ⟨artifact, fetched, -, -⟩ := leads.sound.exists_fetch stored
        rw [fetched]
        exact ⟨nofun, fun none => absurd rfl none⟩
  · intro reference binds
    obtain ⟨manifest, stored⟩ := Option.isSome_iff_exists.mp (leads.bound reference binds)
    obtain ⟨artifact, fetched, rfl, holds⟩ := leads.sound.exists_fetch stored
    obtain ⟨config, layers⟩ := leads.sound.digests_of_holds holds
    exact ⟨artifact, (leads.describes.manifests reference).symm.trans stored, fetched, config,
      layers⟩
  · intro name untitled
    rw [getByName?, leads.describes.titles]
    exact congrArg (Option.bind · _) untitled
  · intro name descriptor titled
    exact leads.sound.getByName?_of_some ((leads.describes.titles name).trans titled)

/-- **Refinement.** After any calls a store that was empty answers as its history says, if
digests tell apart the byte strings that the calls bring. A further call that fails leaves
the store as it is, and further calls that do not bind a reference leave what is fetched
under it. -/
theorem refines_artifacts (calls later : List Call) (events : List Event)
    (told : Digest.TellsApart (· ∈ (calls ++ later).flatMap Call.supplied)) :
    ∃ history s between, (Call.performAll calls).run empty events = ((history, s), between) ∧
      history.map Prod.fst = calls ∧ Answers history s ∧
      (∀ (call : Call) events error s' events',
        call.perform.run s events = ((.error error, s'), events') → s' = s) ∧
      ∃ further s' events', (Call.performAll later).run s between = ((further, s'), events') ∧
        further.map Prod.fst = later ∧
        ∀ reference, ¬ further.Binds reference → s'.fetch reference = s.fetch reference := by
  rw [List.flatMap_append] at told
  have brought {call : Call} {calls : List Call} (member : call ∈ calls) :
      ∀ bytes ∈ call.supplied, bytes ∈ calls.flatMap Call.supplied :=
    fun bytes supplied => List.mem_flatMap.mpr ⟨call, member, supplied⟩
  obtain ⟨history, s, between, ran, listed, leads⟩ :=
    Leads.performAll (sound_empty _) told Ledger.describes_empty calls
      (fun call member bytes supplied => List.mem_append_left _ (brought member bytes supplied))
      events
  obtain ⟨further, s', events', went, rest, onward⟩ :=
    Leads.performAll leads.sound told leads.describes later
      (fun call member bytes supplied => List.mem_append_right _ (brought member bytes supplied))
      between
  refine ⟨history, s, between, ran, listed, leads.answers, ?_, further, s', events', went, rest, ?_⟩
  · intro call events error s' events' failed
    have left : (call.perform s events).1 = (.error error, s') := congrArg Prod.fst failed
    obtain ⟨result, t, performed, ⟨_, -, rfl⟩ | ⟨rfl, -⟩⟩ := call.perform_cases s events
    · exact congrArg Prod.snd (left.symm.trans performed)
    · exact nomatch congrArg Prod.fst (left.symm.trans performed)
  · intro reference unbound
    exact leads.sound.fetch_eq_of_within onward.within (onward.kept reference unbound)

/-- A blob that is its own configuration and layer is stored and copied under another
reference; a copy from a reference that is missing follows. -/
theorem refines_artifacts_shared :
    let bytes : ByteArray := ⟨#[127, 69, 76, 70]⟩
    let blob := Descriptor.ofBlob Package.programName Package.programMediaType bytes none
    let manifest : Manifest := { schemaVersion := 2, config := blob, layers := [blob] }
    let calls : List Call := [.add Package.programName Package.programMediaType bytes,
      .store "a" { manifest, config := bytes, layers := [bytes] }, .copyWithin "a" "b"]
    let later : List Call := [.copyWithin "c" "a", .storeManifest "b" manifest]
    Digest.TellsApart (· ∈ (calls ++ later).flatMap Call.supplied) ∧
      ∃ history s between, (Call.performAll calls).run empty [] = ((history, s), between) ∧
        history.map Prod.fst = calls ∧ Answers history s ∧
        (∀ (call : Call) events error s' events',
          call.perform.run s events = ((.error error, s'), events') → s' = s) ∧
        ∃ further s' events', (Call.performAll later).run s between = ((further, s'), events') ∧
          further.map Prod.fst = later ∧
          ∀ reference, ¬ further.Binds reference → s'.fetch reference = s.fetch reference := by
  intro bytes blob manifest calls later
  have told : Digest.TellsApart (· ∈ (calls ++ later).flatMap Call.supplied) := by
    have only : (calls ++ later).flatMap Call.supplied = List.replicate 3 bytes := rfl
    rw [only]
    intro first second here there _
    rw [List.eq_of_mem_replicate here, List.eq_of_mem_replicate there]
  exact ⟨told, refines_artifacts calls later [] told⟩

end BpfDepot.MemoryStore
