import BpfDepot.Proofs.PackageStore.Putting
import BpfDepot.Proofs.PackageStore.Refinement

/-! # What is loaded

A package is loaded from the two files in the directory that its entry records, and changes
nothing. The digest that the entry records is not looked at: whatever the files hold is loaded,
if it is a package (`PackageStore.readPackage_cases`). So what is loaded has the digest of the
entry exactly if it is the package of which the entry has the digest
(`PackageStore.loads_of_runs`).

It can be another one: when the program of a package that has been put is overwritten, the
package is loaded with the other program (`PackageStore.Represents.load_of_overwrite`), whose
digest is not that of the entry (`PackageStore.load_trusts`).
-/

namespace BpfDepot.PackageStore

open FileTree World

variable {s : PackageStore} {w w' : World} {text path : String} {p : Package}
  {result : Except Error Package}

/-! ## What the files of a directory hold -/

/-- The two files in a directory hold a package: one has the bytes of its program, and the other
one a document that is read as its configuration. -/
def Supplies (w : World) (directory : String) (p : Package) : Prop :=
  w.tree.read w.working (Path.join directory Package.programName) = .ok p.program ∧
    ∃ bytes, w.tree.read w.working (Path.join directory Configuration.fileName) = .ok bytes ∧
      Configuration.decode bytes = .ok p.config

/-- Why no package is read from a directory: a call fails, or the file of the configuration holds
no configuration. -/
def Unreadable (w : World) (directory : String) (error : Error) : Prop :=
  (∃ fault, error = .io fault) ∨
    ∃ bytes message, w.tree.read w.working (Path.join directory Configuration.fileName) = .ok bytes ∧
      Configuration.decode bytes = .error message ∧ error = .configDecode message

/-- Reading a file changes nothing, and what is read is what the tree says. -/
theorem of_runs_read {fault : FileFault → Error} {outcome : Except Error ByteArray}
    (runs : Runs (Files.explain (Files.attempt (.read path)) fault) w outcome w') :
    (w'.tree = w.tree ∧ w'.working = w.working) ∧
      match outcome with
      | .ok bytes => w.tree.read w.working path = .ok bytes
      | .error error => ∃ cause, error = fault cause := by
  have still : Keeps (fun tree working => tree = w.tree ∧ working = w.working)
      (Files.attempt (.read path)) := Keeps.read path
  obtain ⟨result, stepped, rfl⟩ := runs.of_explain
  refine ⟨still _ _ _ ⟨rfl, rfl⟩ stepped, ?_⟩
  cases result with
  | error cause => exact ⟨cause, rfl⟩
  | ok bytes => exact congrArg Prod.snd (Runs.of_attempt_ok stepped).1

/-- **Reading a package** changes nothing. What is read is what the files hold. -/
theorem readPackage_cases (ran : Runs (readPackage path) w result w') :
    (w'.tree = w.tree ∧ w'.working = w.working) ∧
      match result with
      | .ok p => Supplies w path p
      | .error error => Unreadable w path error := by
  rcases Runs.bind_cases ran with ⟨error, failed, rfl⟩ | ⟨program, v, first, further⟩
  · obtain ⟨still, cause⟩ := of_runs_read failed
    exact ⟨still, Or.inl cause⟩
  obtain ⟨⟨tree, working⟩, here⟩ := of_runs_read first
  rcases Runs.bind_cases further with ⟨error, failed, rfl⟩ | ⟨bytes, u, second, last⟩
  · obtain ⟨still, cause⟩ := of_runs_read failed
    rw [tree, working] at still
    exact ⟨still, Or.inl cause⟩
  obtain ⟨still, there⟩ := of_runs_read second
  dsimp only at there
  rw [tree, working] at still there
  split at last
  · next config decoded =>
    obtain ⟨rfl, rfl⟩ := (Runs.pure _ _).unique last
    exact ⟨still, here, bytes, there, decoded⟩
  · next message decoded =>
    obtain ⟨rfl, rfl⟩ := (Runs.throw _ _).unique last
    exact ⟨still, Or.inr ⟨bytes, message, there, decoded, rfl⟩⟩

/-! ## A program that is overwritten -/

section Overwriting

-- what the bytes of a package are does not matter here, nor what their digest is
attribute [local irreducible] Package.configBytes Digest.ofBytes

/-- When the program in a directory on the shelf is overwritten, what lies there is the package
with that program. -/
theorem Lies.overwrite {t : FileTree} {home : Location} {folder : String}
    (lies : Lies t home folder p) (program : ByteArray) :
    Lies (t.put (home ++ [shelfName] ++ [folder] ++ [Package.programName]) (.file program)) home
      folder { p with program } := by
  have apart : Configuration.fileName ≠ Package.programName := by decide
  obtain ⟨bytes, config, decoded⟩ := lies.config
  refine ⟨?_, ?_, node?_put_self (by simp) _, bytes, ?_, decoded⟩
  · rw [node?_put_of_ne (by simp), lies.shelf]
  · rw [node?_put_of_ne (by simp), lies.place]
  · rw [node?_put_of_ne (by simp [apart]), config]

/-- The program of a package that lies in its directory can be overwritten, and then the package
is read with the other program. -/
theorem Lies.readPackage_of_overwrite {directory : String} {home : Location}
    (lies : Lies w.tree home p.folder p) (at_home : w.tree.Home w.working directory home)
    (quiet : w.Quiet) (program : ByteArray) :
    ∃ tree, Runs (Files.attempt (.write (Path.join (packagePath directory p.digest)
        Package.programName) program)) w (.ok ()) { w with tree } ∧
      Runs (readPackage (packagePath directory p.digest)) { w with tree }
        (.ok { p with program }) { w with tree } := by
  have file : w.tree.node? (home ++ [shelfName] ++ [p.folder] ++ [Package.programName]) ≠
      some .directory := by
    rw [lies.program]
    nofun
  have written : w.tree.write w.working (Path.join (packagePath directory p.digest)
      Package.programName) program = .ok _ :=
    (write_join_iff (lies.folder_home at_home p.isName_folder) isName_program).mpr ⟨file, rfl⟩
  have called : w.tree.call w.working (.write (Path.join (packagePath directory p.digest)
      Package.programName) program) = (_, .ok ()) := congrArg w.tree.changed written
  have still : (w.tree.put (home ++ [shelfName] ++ [p.folder] ++ [Package.programName])
      (.file program)).Home w.working directory home := by
    refine home_of_shelf at_home fun q outside => node?_put_of_ne ?_ _
    rintro rfl
    exact outside (by simp)
  refine ⟨_, Runs.attempt quiet called, ?_⟩
  exact (readPackage_iff_lies (w := { w with tree := _ }) still quiet p.isName_folder).mpr
    (lies.overwrite program)

/-- A package has been put if putting it has been performed. -/
theorem put_of_perform (performed : Operates (Operation.put text p).perform s w (.ok ()) s' w') :
    ∃ entry, Operates (PackageStore.put text p) s w (.ok entry) s' w' := by
  rcases Operates.bind_cases performed with ⟨error, -, same⟩ | ⟨entry, t, v, stored, last⟩
  · cases same
  · obtain ⟨-, rfl, rfl⟩ := (Operates.pure _ _ _).unique last
    exact ⟨entry, stored⟩

/-- **Overwriting.** A package is put in a store that represents a map, and then its program is
overwritten. What is loaded has the other program, and the entry still has the digest of the
package that was put. -/
theorem Represents.load_of_overwrite {b : Bindings} {home : Location} {ps : List Package}
    (represents : Represents b home s w) (told : Package.Told ps)
    (known : ∀ q, b.Holds q → q ∈ ps) (listed : p ∈ ps) {key : String}
    (canonical : Reference.canonical text = .ok key) (program : ByteArray) :
    ∃ entry s' v v', Operates (PackageStore.put text p) s w (.ok entry) s' v ∧
      Runs (Files.attempt (.write (Path.join entry.path Package.programName) program)) v (.ok ())
        v' ∧
      Runs (s'.load text) v' (.ok { p with program }) v' ∧ s'.get? text = some entry ∧
      entry.digest = p.digest := by
  have effect : (Operation.put text p).effect b = some (b.set key (some p)) := by
    rw [Operation.effect, canonical]
  have brought : ∀ q ∈ (Operation.put text p).packages, q ∈ ps := by
    intro q member
    rwa [List.mem_singleton.mp member]
  obtain ⟨s', v, performed, next⟩ := represents.perform_of_effect told known brought effect
  obtain ⟨entry, stored⟩ := put_of_perform performed
  obtain ⟨name, u, -, -, named, -, made, changed, -, -⟩ := of_put_ok stored
  obtain rfl := Except.ok.inj (canonical.symm.trans named)
  have bound : s'.index.get? key = some entry := by rw [changed, Dictionary.get?_insert_self]
  have path : entry.path = packagePath s'.directory p.digest := by rw [made, entryOf, changed]
  have lies := next.stocked.lies ⟨key, Bindings.set_self b key (some p)⟩
  obtain ⟨tree, wrote, read⟩ :=
    lies.readPackage_of_overwrite next.stocked.at_home next.stocked.quiet program
  rw [← path] at wrote read
  refine ⟨entry, s', v, _, stored, wrote, (load_iff canonical bound).mpr read, ?_, ?_⟩
  · rw [get?_of_canonical canonical, bound]
  · rw [made, entryOf]

end Overwriting

namespace Found

/-- What the package is found as when its program has been overwritten. -/
def overwritten : Package := other ⟨#[113]⟩

theorem digest_config : Digest.ofBytes package.configBytes =
    "sha256:1f55d35a6767d32aa452de2d40685645abe056721ed84004ea7fa2b7b976d5e9" := by
  rw [Digest.ofBytes_eq_numbers]
  decide +kernel

theorem digest_program : Digest.ofBytes package.program =
    "sha256:148de9c5a7a44d19e56cd9ae1a554bf67847afb0c58f6e12fa29ac7ddfca9940" := by
  rw [Digest.ofBytes_eq_numbers]
  decide +kernel

theorem digest_program_overwritten : Digest.ofBytes overwritten.program =
    "sha256:8e35c2cd3bf6641bdb0e2050b76932cbb2e6034a0ddacc1d9bea82a6ba57f7cf" := by
  rw [Digest.ofBytes_eq_numbers]
  decide +kernel

theorem digest_package : package.digest =
    "sha256:64dbd147e2c131dd0075fe22f0041a47d95d76ee631a88164c98b8ee93b74e40" := by
  rw [package.digest_eq_numbers digest_program digest_config]
  decide +kernel

theorem digest_overwritten : overwritten.digest =
    "sha256:5957f2a3ec648c94f09d6afc25aefa482603cd2e3a9625371da53a950d92e3ef" := by
  rw [overwritten.digest_eq_numbers digest_program_overwritten digest_config]
  decide +kernel

theorem digest_ne : overwritten.digest ≠ package.digest := by
  rw [digest_overwritten, digest_package]
  decide

/-- The digests tell the two packages apart. -/
theorem told : Package.Told [overwritten, package] := by
  refine Package.told_of_pair (fun same => ?_) (fun _ => rfl) fun same => absurd same digest_ne
  rw [digest_program_overwritten, digest_program] at same
  exact absurd same (by decide)

/-- The package is put in a store in a missing directory, and its program is overwritten. -/
theorem load_of_overwrite : ∃ entry s v w,
    Operates (PackageStore.put "a" package) Probe.store Probe.world (.ok entry) s v ∧
      Runs (Files.attempt (.write (Path.join entry.path Package.programName)
        overwritten.program)) v (.ok ()) w ∧
      Runs (s.load "a") w (.ok overwritten) w ∧ s.get? "a" = some entry ∧
      entry.digest = package.digest :=
  Probe.represents.load_of_overwrite (Package.told_of_only fun _ => List.mem_singleton.mp)
    (fun q holds => absurd holds (Bindings.not_holds_none q)) List.mem_cons_self
    (rfl : Reference.canonical "a" = .ok "docker.io/library/a:latest") _

end Found

/-! ## What is loaded -/

/-- What becomes of loading a text from a store. -/
structure Loads (s : PackageStore) (w : World) (text : String) (result : Except Error Package) :
    Prop where
  /-- A package that is loaded is what the files in the directory of the entry hold. It has the
  digest of the entry exactly if it is the package with that digest. -/
  loaded : ∀ p, result = .ok p → ∃ entry, s.get? text = some entry ∧ Supplies w entry.path p ∧
    ∀ q, q.digest = entry.digest → Package.Told [p, q] → (p.digest = entry.digest ↔ p = q)
  /-- Nothing is found, or the files cannot be read as a package. -/
  failed : ∀ error, result = .error error →
    s.get? text = none ∧ error = missing text ∨
      ∃ entry, s.get? text = some entry ∧ Unreadable w entry.path error
  /-- If no call is broken off, whatever the files hold is loaded. -/
  supplied : w.Quiet → ∀ entry, s.get? text = some entry → ∀ p, Supplies w entry.path p →
    result = .ok p

/-- Where digests tell packages apart, a package has the digest of another one only if it is the
same. -/
theorem digest_eq_iff {q : Package} {digest : String} (named : q.digest = digest)
    (told : Package.Told [p, q]) : p.digest = digest ↔ p = q := by
  constructor
  · intro same
    exact Package.eq_of_digest_eq told List.mem_cons_self
      (List.mem_cons_of_mem _ List.mem_cons_self) (same.trans named.symm)
  · rintro rfl
    exact named

/-- **Loading** changes nothing and gives what the files of the entry hold, whatever has become
of them, and whatever digest the entry records. -/
theorem loads_of_runs (ran : Runs (s.load text) w result w') :
    (w'.tree = w.tree ∧ w'.working = w.working) ∧ Loads s w text result := by
  cases found : s.get? text with
  | none =>
      unfold load at ran
      rw [found] at ran
      obtain ⟨rfl, rfl⟩ := (Runs.throw _ _).unique ran
      refine ⟨⟨rfl, rfl⟩, nofun, ?_, fun _ entry same => nomatch found.symm.trans same⟩
      rintro _ ⟨⟩
      exact Or.inl ⟨found, rfl⟩
  | some entry =>
      unfold load at ran
      rw [found] at ran
      obtain ⟨still, outcome⟩ := readPackage_cases ran
      refine ⟨still, ?_, ?_, ?_⟩
      · rintro p rfl
        exact ⟨entry, found, outcome, fun q named told => digest_eq_iff named told⟩
      · rintro error rfl
        exact Or.inr ⟨entry, found, outcome⟩
      · intro quiet other same p supplied
        obtain rfl := Option.some.inj (found.symm.trans same)
        have read : Runs (readPackage entry.path) w (.ok p) w :=
          (readPackage_iff quiet).mpr ⟨rfl, supplied⟩
        exact (read.unique ran).1

/-- A package that has been put is loaded when its program has been overwritten. Its entry has the
digest of the package that was put, and digests tell this one from what is loaded. -/
theorem loads_of_runs_overwritten :
    ∃ entry s v w,
      Operates (PackageStore.put "a" Found.package) Probe.store Probe.world (.ok entry) s v ∧
      Runs (Files.attempt (.write (Path.join entry.path Package.programName)
        Found.overwritten.program)) v (.ok ()) w ∧
      Runs (s.load "a") w (.ok Found.overwritten) w ∧ Loads s w "a" (.ok Found.overwritten) ∧
      Found.package.digest = entry.digest ∧
      Package.Told [Found.overwritten, Found.package] := by
  obtain ⟨entry, s, v, w, stored, wrote, loaded, -, digest⟩ := Found.load_of_overwrite
  exact ⟨entry, s, v, w, stored, wrote, loaded, (loads_of_runs loaded).2, digest.symm, Found.told⟩

/-- **Trust.** A package is put, and its program is overwritten. It is loaded with the other
program, and what is loaded does not have the digest that the entry records. -/
theorem load_trusts :
    ∃ entry s v w,
      Operates (PackageStore.put "a" Found.package) Probe.store Probe.world (.ok entry) s v ∧
      Runs (Files.attempt (.write (Path.join entry.path Package.programName)
        Found.overwritten.program)) v (.ok ()) w ∧
      Runs (s.load "a") w (.ok Found.overwritten) w ∧ s.get? "a" = some entry ∧
      Found.overwritten.digest ≠ entry.digest := by
  obtain ⟨entry, s, v, w, stored, wrote, loaded, found, digest⟩ := Found.load_of_overwrite
  exact ⟨entry, s, v, w, stored, wrote, loaded, found,
    ne_of_ne_of_eq Found.digest_ne digest.symm⟩

end BpfDepot.PackageStore
