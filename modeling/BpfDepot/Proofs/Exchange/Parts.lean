import BpfDepot.Exchange
import BpfDepot.Proofs.Log
import BpfDepot.Proofs.MemoryStore.Contents

/-! # Pushing and pulling in three parts

A push and a pull use the target once, and what they do before and after that is their own.
So each of them is what comes before its access, the access, and what comes after it
(`Exchange.push_eq`, `Exchange.pull_eq`). A push goes to its access with the artifact of its
package (`Exchange.gives_prepare`), and from that artifact a pull makes the package again
(`Exchange.opened_artifact`).
-/

namespace BpfDepot

-- nothing here depends on what the bytes of a configuration and the digests are
attribute [local irreducible] Package.configBytes Digest.ofBytes

namespace Package

/-- The artifact of a package, with its program as the only layer. -/
def artifact (p : Package) : Artifact where
  manifest := p.manifest
  config := p.configBytes
  layers := [p.program]

/-- The program with its descriptor. -/
def programBlob (p : Package) : Descriptor × ByteArray :=
  (Descriptor.ofBlob programName programMediaType p.program none, p.program)

/-- The configuration with its descriptor. -/
def configBlob (p : Package) : Descriptor × ByteArray :=
  (Descriptor.ofBlob Configuration.fileName Configuration.mediaType p.configBytes none,
    p.configBytes)

theorem artifact_blobs (p : Package) : p.artifact.blobs = [p.configBlob, p.programBlob] := rfl

theorem verify_of_mem_blobs {p : Package} {blob : Descriptor × ByteArray}
    (member : blob ∈ p.artifact.blobs) : blob.1.verify blob.2 = .ok () := by
  rw [artifact_blobs, List.mem_pair] at member
  rcases member with rfl | rfl
  · exact Descriptor.verify_ofBlob _ _ _ _
  · exact Descriptor.verify_ofBlob _ _ _ _

theorem verify_artifact (p : Package) : p.artifact.verify = .ok () :=
  Artifact.verify_eq_ok_iff.mpr ⟨rfl, fun _ member => verify_of_mem_blobs member⟩

end Package

namespace Exchange

section Parts

variable {m : Type → Type} [Monad m] [Log m]

/-- What a push does before it stores: it makes the artifact and the digest of the
package. -/
def prepare (reference : String) (package : Package) : m (Except Error (Artifact × String)) := do
  match checkReference reference with
  | .error error => return .error error
  | .ok () =>
    tell "Pushing eBPF package"
      [("reference", .text reference), ("size", .number package.program.size)]
    match stage reference package with
    | .error error => return .error error
    | .ok (staged, digest) =>
      match ← (Target.memory staged).take reference reference with
      | .error error => return .error error
      | .ok artifact => return .ok (artifact, digest)

/-- What a push does after it stored. -/
def conclude (reference digest : String) (stored : Except Error String) :
    m (Except Error Unit) := do
  match stored with
  | .error error => return .error error
  | .ok _ =>
    tell "eBPF package pushed" [("reference", .text reference), ("digest", .text digest)]
    return .ok ()

/-- What a pull does before it fetches. -/
def inquire (reference : String) : m (Except Error Unit) := do
  match checkReference reference with
  | .error error => return .error error
  | .ok () =>
    tell "Pulling eBPF package" [("reference", .text reference)]
    return .ok ()

/-- What a pull does after it fetched: it takes the package from a stage. -/
def unpack (reference : String) (fetched : Except Error Artifact) :
    m (Except Error Package) := do
  match fetched with
  | .error error => return .error error
  | .ok artifact =>
    Log.emit {
      level := .debug
      message := "Copying artifact"
      fields := [("source", .text reference), ("destination", .text reference),
        ("layers", .number artifact.layers.length), ("size", .number artifact.size)] }
    let result := do
      let (staged, digest) ← MemoryStore.empty.store reference artifact
      return (← unstage reference staged, digest)
    match result with
    | .error error => return .error error
    | .ok (package, digest) =>
      tell "eBPF package pulled" [("reference", .text reference), ("digest", .text digest),
        ("size", .number package.program.size)]
      return .ok package

variable [LawfulMonad m]

/-- **Pushing** is preparing, storing and concluding. -/
theorem push_eq (target : Target) (reference : String) (package : Package) :
    (push target reference package : m _) = (do
      match ← prepare reference package with
      | .error error => return (target, .error error)
      | .ok (artifact, digest) =>
        let (target, stored) ← target.store reference artifact
        return (target, ← conclude reference digest stored)) := by
  unfold push prepare
  cases checkReference reference with
  | error error => simp
  | ok _ =>
      cases stage reference package with
      | error error => simp
      | ok staged =>
          have same : Target.copyReference reference reference = reference := ite_id reference
          simp only [Target.copy, same, bind_assoc]
          congr 1
          funext _
          congr 1
          funext taken
          cases taken with
          | error error => simp
          | ok artifact =>
              simp only [pure_bind]
              congr 1
              funext stored
              unfold conclude
              cases stored.2 <;> simp

/-- **Pulling** is inquiring, fetching and unpacking. -/
theorem pull_eq (target : Target) (reference : String) :
    (pull target reference : m _) = (do
      match ← inquire reference with
      | .error error => return .error error
      | .ok () => unpack reference (target.fetch reference)) := by
  unfold pull inquire unpack Target.take
  cases checkReference reference with
  | error error => simp
  | ok _ =>
      cases target.fetch reference with
      | error error => simp
      | ok artifact =>
          simp only [bind_assoc]
          apply bind_congr
          intro _
          refine Eq.trans ?_ (pure_bind (Except.ok ()) _).symm
          exact bind_congr fun _ => pure_bind (Except.ok artifact) _

end Parts

/-! ## What the parts give -/

variable {reference : String} {p : Package}

/-- Staging a package is taking in its blobs and then its manifest. -/
theorem stage_eq_storeManifest (reference : String) (p : Package) : stage reference p =
    (MemoryStore.empty.ingest [p.programBlob, p.configBlob]).storeManifest reference
      p.manifest := by
  let program := Descriptor.ofBlob Package.programName Package.programMediaType p.program none
  let config :=
    Descriptor.ofBlob Configuration.fileName Configuration.mediaType p.configBytes none
  let added := (MemoryStore.empty.add Package.programName Package.programMediaType p.program).1
  have whole : stage reference p = (do
      let staged ← added.set config p.configBytes
      let manifest ← Manifest.ofBlobs config none [program]
      staged.storeManifest reference manifest) := rfl
  have set : added.set config p.configBytes = .ok (added.insertBlob config p.configBytes) :=
    MemoryStore.set_eq_ok_iff.mpr ⟨Descriptor.verify_ofBlob _ _ _ _, rfl⟩
  have listed : Manifest.ofBlobs config none [program] = .ok p.manifest := rfl
  have filled : added.insertBlob config p.configBytes =
      MemoryStore.empty.ingest [p.programBlob, p.configBlob] :=
    congrArg (MemoryStore.insertBlob · config p.configBytes) (MemoryStore.add_eq _ _ _ _)
  rw [whole, set, listed, filled]
  rfl

/-- The stage of a package has its blobs and its manifest. -/
theorem of_stage_ok {staged : MemoryStore} {digest : String}
    (onto : stage reference p = .ok (staged, digest)) :
    staged = (MemoryStore.empty.ingest [p.programBlob, p.configBlob]).record reference p.manifest ∧
      digest = p.digest := by
  rw [stage_eq_storeManifest] at onto
  exact (MemoryStore.storeManifest_eq_ok_iff.mp onto).2

theorem manifest?_of_stage_ok {staged : MemoryStore} {digest : String}
    (onto : stage reference p = .ok (staged, digest)) :
    staged.manifest? reference = some p.manifest := by
  rw [(of_stage_ok onto).1, MemoryStore.manifest?_record, if_pos rfl]

/-- The configuration comes onto the stage last, so it is found under its name whatever the digest
of the program is. -/
theorem getByName?_of_stage_ok {staged : MemoryStore} {digest : String}
    (onto : stage reference p = .ok (staged, digest)) :
    staged.getByName? Configuration.fileName = some p.configBlob := by
  obtain ⟨rfl, -⟩ := of_stage_ok onto
  have named : (MemoryStore.empty.ingest [p.programBlob, p.configBlob]).names.get?
      Configuration.fileName = some p.configBlob.1 :=
    (MemoryStore.names_insertBlob _ _ _ _).trans (if_pos (Descriptor.title?_ofBlob _ _ _ _))
  exact MemoryStore.getByName?_eq named (MemoryStore.blobs_insertBlob_self _ _ _)

/-- An artifact is found on the stage of a package, whatever the digests of its blobs. -/
theorem exists_fetch_of_stage {staged : MemoryStore} {digest : String}
    (onto : stage reference p = .ok (staged, digest)) :
    ∃ a, staged.fetch reference = .ok a ∧ a.manifest = p.manifest := by
  have manifest := manifest?_of_stage_ok onto
  rw [stage_eq_storeManifest] at onto
  obtain ⟨present, rfl, -⟩ := MemoryStore.storeManifest_eq_ok_iff.mp onto
  obtain ⟨a, fetched, same, -⟩ := MemoryStore.exists_fetch_of_complete manifest present
  exact ⟨a, fetched, same⟩

/-- The stage of a package holds its artifact. -/
theorem fetch_of_stage (told : Digest.TellsApart (· ∈ p.artifact.contents))
    {staged : MemoryStore} {digest : String}
    (onto : stage reference p = .ok (staged, digest)) :
    staged.fetch reference = .ok p.artifact := by
  have manifest := manifest?_of_stage_ok onto
  obtain ⟨rfl, -⟩ := of_stage_ok onto
  -- the program comes onto the stage first, but the configuration into the artifact
  have listed {blob : Descriptor × ByteArray} (member : blob ∈ [p.programBlob, p.configBlob]) :
      blob ∈ p.artifact.blobs := by
    rw [Package.artifact_blobs, List.mem_pair]
    exact (List.mem_pair.mp member).symm
  have present := MemoryStore.get?_ingest (s := .empty) told
    (fun _ member => Package.verify_of_mem_blobs (listed member))
    (fun _ member => Artifact.mem_contents_of_mem_blobs (listed member))
  refine MemoryStore.fetch_eq_ok_iff.mpr ⟨manifest, present p.configBlob ?_, ?_⟩
  · exact List.mem_cons_of_mem _ List.mem_cons_self
  · exact .cons (present p.programBlob List.mem_cons_self) .nil

theorem gives_prepare_of_error {error : Error} (refused : checkReference reference = .error error)
    (p : Package) : Logged.Gives (prepare reference p) (.error error) := by
  unfold prepare
  rw [refused]
  exact .pure _

/-- A push goes to its access with the artifact of its package. -/
theorem gives_prepare (told : Digest.TellsApart (· ∈ p.artifact.contents))
    (accepted : checkReference reference = .ok ()) :
    Logged.Gives (prepare reference p) (.ok (p.artifact, p.digest)) := by
  obtain ⟨staged, onto⟩ := stage_eq reference p
  unfold prepare Target.take Target.fetch
  simp only [accepted, onto, fetch_of_stage told onto, bind_assoc, pure_bind]
  exact (Logged.Gives.emit _).bind ((Logged.Gives.emit _).bind (.pure _))

theorem gives_conclude (reference digest other : String) :
    Logged.Gives (conclude reference digest (.ok other)) (.ok ()) :=
  (Logged.Gives.emit _).bind (.pure _)

theorem gives_inquire_of_error {error : Error}
    (refused : checkReference reference = .error error) :
    Logged.Gives (inquire reference) (.error error) := by
  unfold inquire
  rw [refused]
  exact .pure _

theorem gives_inquire (accepted : checkReference reference = .ok ()) :
    Logged.Gives (inquire reference) (.ok ()) := by
  unfold inquire
  rw [accepted]
  exact (Logged.Gives.emit _).bind (.pure _)

/-- The artifact of a package is stored. -/
theorem store_artifact (s : MemoryStore) (reference : String) (p : Package) :
    s.store reference p.artifact = .ok
      ((s.ingest p.artifact.blobs).record reference p.artifact.manifest, p.digest) :=
  MemoryStore.store_eq_ok_iff.mpr ⟨p.verify_artifact, rfl, rfl⟩

/-- The package that a pull takes from a stage of an artifact. -/
def opened (reference : String) (a : Artifact) : Except Error Package := do
  let (staged, _) ← MemoryStore.empty.store reference a
  unstage reference staged

theorem gives_unpack (reference : String) (fetched : Except Error Artifact) :
    Logged.Gives (unpack reference fetched) (fetched >>= opened reference) := by
  cases fetched with
  | error error => exact .pure _
  | ok a =>
      refine (Logged.Gives.emit _).bind ?_
      simp only [opened, Bind.bind, Except.bind]
      cases MemoryStore.empty.store reference a with
      | error error => exact .pure _
      | ok stored =>
          cases taken : unstage reference stored.1 with
          | error error =>
              simp only [taken]
              exact .pure _
          | ok package =>
              simp only [taken]
              exact (Logged.Gives.emit _).bind (.pure _)

theorem unstage_of_files {s : MemoryStore} {descriptor other : Descriptor}
    {program bytes : ByteArray} {config : Configuration}
    (first : s.getByName? Package.programName = some (descriptor, program))
    (second : s.getByName? Configuration.fileName = some (other, bytes))
    (decoded : Configuration.decode bytes = .ok config) :
    unstage reference s = .ok { program, config } := by
  unfold unstage
  simp only [first, second, decoded, Bind.bind, Except.bind]
  rfl

/-- The files of a package are found on a stage that took in its blobs. -/
theorem unstage_of_ingest (told : Digest.TellsApart (· ∈ p.artifact.contents))
    (reference : String) : unstage reference ((MemoryStore.empty.ingest p.artifact.blobs).record reference
      p.artifact.manifest) = .ok p := by
  have present := MemoryStore.get?_ingest (s := .empty) told
    (fun _ member => Package.verify_of_mem_blobs member)
    (fun _ member => Artifact.mem_contents_of_mem_blobs member)
  rw [Package.artifact_blobs] at present ⊢
  have titled : p.programBlob.1.title? = some Package.programName :=
    Descriptor.title?_ofBlob _ _ _ _
  have other : ¬ p.programBlob.1.title? = some Configuration.fileName := by
    rw [titled]
    decide
  have program : (MemoryStore.empty.ingest [p.configBlob, p.programBlob]).names.get?
      Package.programName = some p.programBlob.1 :=
    (MemoryStore.names_insertBlob _ _ _ _).trans (if_pos titled)
  have config : (MemoryStore.empty.ingest [p.configBlob, p.programBlob]).names.get?
      Configuration.fileName = some p.configBlob.1 :=
    (MemoryStore.names_insertBlob _ _ _ _).trans ((if_neg other).trans
      ((MemoryStore.names_insertBlob _ _ _ _).trans (if_pos (Descriptor.title?_ofBlob _ _ _ _))))
  exact unstage_of_files
    (MemoryStore.getByName?_eq program
      (present p.programBlob (List.mem_cons_of_mem _ List.mem_cons_self)))
    (MemoryStore.getByName?_eq config (present p.configBlob List.mem_cons_self))
    p.decode_configBytes

/-- From the artifact of a package a pull makes the package again. -/
theorem opened_artifact (told : Digest.TellsApart (· ∈ p.artifact.contents)) (reference : String) :
    opened reference p.artifact = .ok p := by
  unfold opened
  rw [store_artifact]
  exact unstage_of_ingest told reference

/-- **Pulling** gives the package that is taken from a stage of what is fetched. -/
theorem gives_pull (target : Target) (reference : String) :
    Logged.Gives (pull target reference) (do
      checkReference reference
      let a ← target.fetch reference
      opened reference a) := by
  rw [pull_eq]
  cases accepted : checkReference reference with
  | error error => exact (gives_inquire_of_error accepted).bind (.pure _)
  | ok _ => exact (gives_inquire accepted).bind (gives_unpack reference (target.fetch reference))

theorem gives_push_of_error {error : Error} (refused : checkReference reference = .error error)
    (target : Target) (p : Package) :
    Logged.Gives (push target reference p) (target, .error error) := by
  unfold push
  rw [refused]
  exact .pure _

/-- **Pushing** is copying the stage of the package. -/
theorem gives_push {staged : MemoryStore} {digest : String} {target after : Target}
    {result : Except Error String} (accepted : checkReference reference = .ok ())
    (onto : stage reference p = .ok (staged, digest))
    (copied : Logged.Gives ((Target.memory staged).copy reference target reference)
      (after, result)) :
    Logged.Gives (push target reference p) (after, result.map fun _ => ()) := by
  unfold push
  simp only [accepted, onto]
  refine (Logged.Gives.emit _).bind (copied.bind ?_)
  cases result with
  | error error => exact .pure _
  | ok reported => exact (Logged.Gives.emit _).bind (.pure _)

end Exchange

end BpfDepot
