import BpfDepot.Proofs.Command.Steps
import BpfDepot.Proofs.Exchange.Parts
import BpfDepot.Proofs.FileTree.Bringing
import BpfDepot.Proofs.PackageStore.Putting
import BpfDepot.Proofs.PackageStore.Reading

/-! # Configurations and their documents

A configuration has two documents, one without blanks and one with an entry to a line. The first
one is put on a stage and into a store, and the second one is written outside of the store
(`Package.deposits`). Both are decoded as the configuration (`Configuration.decode_of_encoding`),
so it is read from either of them, on a stage and in a store
(`Configuration.recovered_of_decode`), and configurations that say different things have no
document in common (`Configuration.recovered_of_encoding`).
-/

namespace BpfDepot

open FileTree World

/-! ## Where documents are written -/

section Writing

variable {p : Package} {directory output : String} {home : Location} {w w' : World}

/-- The file of the configuration in the directory of a package that has been written. -/
theorem PackageStore.read_of_writePackage (at_home : w.tree.Home w.working directory home)
    (grounded : w.tree.Grounded)
    (wrote : Runs (writePackage (packagePath directory p.digest) p) w (.ok ()) w') :
    w'.tree.read w'.working (Path.join (packagePath directory p.digest) Configuration.fileName) =
      .ok p.configBytes := by
  obtain ⟨at_home', lies, config⟩ := lies_of_writePackage at_home grounded wrote
  have at_folder := lies.folder_home at_home' p.isName_folder
  rw [← at_folder.ends] at config
  exact (read_join_iff isName_config).mpr ⟨at_folder.reached, config⟩

/-- The file of the configuration where the files of a package have been written. -/
theorem Command.read_of_writeFiles (wrote : Runs (writeFiles p output) w (.ok ()) w') :
    w'.tree.read w'.working (Path.join output Configuration.fileName) =
      .ok p.config.lines.toUTF8 := by
  unfold writeFiles at wrote
  obtain ⟨_, _, -, wrote⟩ := Runs.of_bind_ok wrote
  obtain ⟨_, _, -, wrote⟩ := Runs.of_bind_ok wrote
  obtain ⟨called, working⟩ := Runs.of_attempt_ok (of_calling_ok wrote)
  rw [working]
  exact read_of_write PackageStore.isName_config (changed_eq_ok called)

/-- What is found of the configuration of a package where the package has been put. -/
structure Package.Deposits (p : Package) : Prop where
  /-- On a stage its document without blanks is found under the name of the file. -/
  staged : ∀ reference, ∃ staged descriptor, Exchange.stage reference p = .ok (staged, p.digest) ∧
    staged.getByName? Configuration.fileName = some (descriptor, p.config.document.toUTF8)
  /-- So it is in the directory of the package in a store, once that has been written. -/
  shelved : ∀ {directory home} {w w' : World}, w.tree.Home w.working directory home →
    w.tree.Grounded →
    Runs (PackageStore.writePackage (PackageStore.packagePath directory p.digest) p) w (.ok ()) w' →
      w'.tree.read w'.working (Path.join (PackageStore.packagePath directory p.digest)
        Configuration.fileName) = .ok p.config.document.toUTF8
  /-- In any other directory its document with an entry to a line is found. -/
  extracted : ∀ {output} {w w' : World}, Runs (Command.writeFiles p output) w (.ok ()) w' →
    w'.tree.read w'.working (Path.join output Configuration.fileName) = .ok p.config.lines.toUTF8

theorem Package.deposits (p : Package) : p.Deposits where
  staged reference := by
    obtain ⟨staged, onto⟩ := Exchange.stage_eq reference p
    exact ⟨staged, _, onto, Exchange.getByName?_of_stage_ok onto⟩
  shelved := PackageStore.read_of_writePackage
  extracted := Command.read_of_writeFiles

end Writing

/-! ## Where documents are read -/

namespace Configuration

variable {c : Configuration} {bytes : ByteArray}

/-- The documents of a configuration. -/
inductive Encoding (c : Configuration) : ByteArray → Prop where
  /-- The one without blanks. -/
  | compact : Encoding c c.document.toUTF8
  /-- The one with an entry to a line. -/
  | lines : Encoding c c.lines.toUTF8

/-- **Decoding.** A configuration is decoded from either document. -/
theorem decode_of_encoding (encoding : Encoding c bytes) : decode bytes = .ok c := by
  cases encoding with
  | compact => exact Json.Codec.decode_encode c.keeps
  | lines => exact c.decode_lines

/-- Wherever bytes are read as a configuration they are read as this one. -/
structure Recovered (c : Configuration) (bytes : ByteArray) : Prop where
  /-- They are decoded as the configuration. -/
  decoded : decode bytes = .ok c
  /-- From a stage that has them and a program under the names of the files, a package with the
  configuration is taken. -/
  unstaged : ∀ {reference : String} {stage : MemoryStore} {descriptor other : Descriptor}
    {program : ByteArray}, stage.getByName? Package.programName = some (descriptor, program) →
      stage.getByName? fileName = some (other, bytes) →
        Exchange.unstage reference stage = .ok { program, config := c }
  /-- What is loaded from a directory that has them is a package with the configuration, and only
  a call that fails keeps it from being loaded. -/
  loaded : ∀ {s : PackageStore} {w w' : World} {text : String} {entry : StoredPackage}
    {result : Except Error Package}, s.get? text = some entry →
      w.tree.read w.working (Path.join entry.path fileName) = .ok bytes →
      Runs (s.load text) w result w' →
        (∃ program, result = .ok { program, config := c }) ∨ ∃ fault, result = .error (.io fault)
  /-- If the directory has a program too and no call is broken off, the package is loaded. -/
  supplied : ∀ {s : PackageStore} {w : World} {text : String} {entry : StoredPackage}
    {program : ByteArray}, w.Quiet → s.get? text = some entry →
      w.tree.read w.working (Path.join entry.path Package.programName) = .ok program →
      w.tree.read w.working (Path.join entry.path fileName) = .ok bytes →
        Runs (s.load text) w (.ok { program, config := c }) w

/-- **Reading.** On a stage and in a store bytes are read as what they are decoded as. -/
theorem recovered_of_decode (decoded : decode bytes = .ok c) : Recovered c bytes where
  decoded := decoded
  unstaged program config := Exchange.unstage_of_files program config decoded
  loaded {s w w' text entry result} found config ran := by
    unfold PackageStore.load at ran
    rw [found] at ran
    obtain ⟨-, outcome⟩ := PackageStore.readPackage_cases ran
    cases result with
    | ok p =>
        obtain ⟨-, content, there, read⟩ := outcome
        obtain rfl := Except.ok.inj (config.symm.trans there)
        obtain rfl := Except.ok.inj (decoded.symm.trans read)
        exact Or.inl ⟨p.program, rfl⟩
    | error error =>
        rcases outcome with ⟨fault, rfl⟩ | ⟨content, message, there, refused, -⟩
        · exact Or.inr ⟨fault, rfl⟩
        · obtain rfl := Except.ok.inj (config.symm.trans there)
          cases decoded.symm.trans refused
  supplied quiet found program config := by
    unfold PackageStore.load
    rw [found]
    exact (PackageStore.readPackage_iff quiet).mpr ⟨rfl, program, bytes, config, decoded⟩

/-- **Round trip.** Whatever is said of a program, one of two documents of it is found where its
package has been put, it is read as it was said wherever one of them is read, and nothing else that
can be said has one of them. -/
theorem recovered_of_encoding (info : String) :
    (∀ program, Package.Deposits { program, config := { info } }) ∧
      ∀ bytes, Encoding { info } bytes → Recovered { info } bytes ∧
        ∀ other : String, Encoding { info := other } bytes → other = info := by
  refine ⟨fun program => Package.deposits _, fun bytes encoding => ?_⟩
  have decoded := decode_of_encoding encoding
  refine ⟨recovered_of_decode decoded, fun other shared => ?_⟩
  have same := Except.ok.inj ((decode_of_encoding shared).symm.trans decoded)
  exact congrArg Configuration.info same

/-- A quotation mark, a backslash and controls are escaped, and other characters are not. -/
theorem recovered_of_encoding_escaped :
    let c : Configuration := { info := "\"\\\n\x01é" }
    c.document = "\x7b\"info\":\"\\\"\\\\\\n\\u0001é\"\x7d" ∧
      c.lines = "\x7b\n  \"info\": \"\\\"\\\\\\n\\u0001é\"\n\x7d" ∧
      Recovered c c.document.toUTF8 ∧ Recovered c c.lines.toUTF8 := by
  refine ⟨by decide, by decide, ?_, ?_⟩
  · exact ((recovered_of_encoding _).2 _ .compact).1
  · exact ((recovered_of_encoding _).2 _ .lines).1

end Configuration

end BpfDepot
