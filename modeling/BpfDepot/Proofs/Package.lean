import BpfDepot.Exchange
import BpfDepot.Proofs.Digest
import BpfDepot.Proofs.Manifest

/-! # What names a package

A package goes onto a stage without fail, under the digest of one manifest that does
not depend on the reference (`Exchange.stage_eq`). The configuration is read back from
its bytes (`Package.decode_configBytes`), and where digests tell byte strings apart the
digest of a package tells the package (`Package.eq_of_digest_eq`).
-/

namespace BpfDepot

/-- A descriptor fits the bytes that it was made for. -/
theorem Descriptor.verify_ofBlob (name mediaType : String) (bytes : ByteArray)
    (annotations : Option (Dictionary String)) :
    (ofBlob name mediaType bytes annotations).verify bytes = .ok () := by
  simp [verify, ofBlob]

namespace Digest

/-- Sixteen digits are enough, and none of them is a mark of a path. -/
theorem hexDigit_ne (n : Nat) (small : n < 16) : Text.hexDigit n ≠ '/' ∧ Text.hexDigit n ≠ '.' := by
  revert n
  decide

theorem byteDigits_ne (b : UInt8) : ∀ c ∈ Text.byteDigits b, c ≠ '/' ∧ c ≠ '.' := by
  have size : b.toNat < 256 := b.toNat_lt
  intro c member
  simp only [Text.byteDigits, List.mem_cons, List.not_mem_nil, or_false] at member
  rcases member with rfl | rfl <;> exact hexDigit_ne _ (by omega)

theorem digits_ofBytes (bytes : ByteArray) :
    digits (ofBytes bytes) = Text.hex (Sha256.hash bytes) := by
  have written : (ofBytes bytes).toList =
      algorithm.toList ++ (Text.hex (Sha256.hash bytes)).toList := by
    rw [ofBytes, String.toList_append]
  have begun : algorithm.toList.isPrefixOf (ofBytes bytes).toList = true := by
    rw [written, List.isPrefixOf_iff_prefix]
    exact List.prefix_append _ _
  have rest : (ofBytes bytes).toList.drop algorithm.length =
      (Text.hex (Sha256.hash bytes)).toList := by
    rw [written]
    exact List.drop_left
  unfold digits
  rw [if_pos begun, rest, String.ofList_toList]

theorem ofBytes_eq_digits (bytes : ByteArray) :
    ofBytes bytes = algorithm ++ digits (ofBytes bytes) := by
  rw [digits_ofBytes, ofBytes]

theorem ofBytes_eq_of_digits_eq {bytes other : ByteArray}
    (same : digits (ofBytes bytes) = digits (ofBytes other)) : ofBytes bytes = ofBytes other := by
  rw [ofBytes_eq_digits, same, ← ofBytes_eq_digits]

/-- A digest has digits, and none of them is a mark of a path. -/
theorem digits_ofBytes_plain (bytes : ByteArray) :
    digits (ofBytes bytes) ≠ "" ∧ ∀ c ∈ (digits (ofBytes bytes)).toList, c ≠ '/' ∧ c ≠ '.' := by
  have some (words : List UInt32) : words ≠ [] →
      (words.flatMap fun word => Sha256.bigEndian 4 word.toNat) ≠ [] := by
    cases words with
    | nil => exact fun nonempty => absurd rfl nonempty
    | cons word words => exact fun _ => List.cons_ne_nil _ _
  have hashed : Sha256.hash bytes ≠ [] := some _ (List.cons_ne_nil _ _)
  rw [digits_ofBytes, Text.hex, String.toList_ofList]
  constructor
  · intro nothing
    obtain ⟨b, rest, begun⟩ := List.exists_cons_of_ne_nil hashed
    have empty := congrArg String.toList nothing
    rw [begun, String.toList_ofList] at empty
    exact List.cons_ne_nil _ _ empty
  · intro c member
    obtain ⟨b, -, inside⟩ := List.mem_flatMap.mp member
    exact byteDigits_ne b c inside

end Digest

namespace Configuration

theorem keeps (c : Configuration) : codec.Keeps c :=
  Json.Codec.keeps_via
    (Json.Codec.keeps_record (by decide) ⟨Json.Codec.keeps_text c.info, trivial⟩) rfl

/-- A configuration is read back from its document for a reader too. -/
theorem decode_lines (c : Configuration) : decode c.lines.toUTF8 = .ok c :=
  Json.Codec.decode_encodeLines c.keeps

end Configuration

namespace Package

/-- The manifest of a package. -/
def manifest (p : Package) : Manifest where
  schemaVersion := 2
  mediaType := some Manifest.imageMediaType
  config := Descriptor.ofBlob Configuration.fileName Configuration.mediaType p.configBytes none
  layers := [Descriptor.ofBlob programName programMediaType p.program none]

/-- The digest that a package is pushed with. -/
def digest (p : Package) : String := p.manifest.digest

/-- The digits of the digest, which name the directory of the package in a store. -/
def folder (p : Package) : String := Digest.digits p.digest

/-- The number of bytes of a package. -/
def size (p : Package) : Nat := p.program.size + p.configBytes.size

theorem decode_configBytes (p : Package) : Configuration.decode p.configBytes = .ok p.config :=
  Json.Codec.decode_encode p.config.keeps

theorem config_eq_of_configBytes_eq {p q : Package} (same : p.configBytes = q.configBytes) :
    p.config = q.config := by
  have read := p.decode_configBytes
  rw [same, q.decode_configBytes] at read
  exact (Except.ok.inj read).symm

/-- Manifests of packages are told by their documents up to the digests in them. -/
theorem digests_of_encode_eq {p q : Package} (same : p.manifest.encode = q.manifest.encode) :
    Digest.ofBytes p.configBytes = Digest.ofBytes q.configBytes ∧
      Digest.ofBytes p.program = Digest.ofBytes q.program := by
  have manifests : p.manifest = q.manifest := Manifest.encode_injective same
  have config : p.manifest.config.digest = q.manifest.config.digest := by rw [manifests]
  have layers : p.manifest.layers.map Descriptor.digest =
      q.manifest.layers.map Descriptor.digest := by rw [manifests]
  exact ⟨config, (List.cons.inj layers).1⟩

/-- Among some packages, digests tell programs, configurations and manifests apart. -/
structure Told (ps : List Package) : Prop where
  /-- No two programs have one digest. -/
  programs : ∀ p ∈ ps, ∀ q ∈ ps, Digest.ofBytes p.program = Digest.ofBytes q.program →
    p.program = q.program
  /-- No two configurations have one digest. -/
  configs : ∀ p ∈ ps, ∀ q ∈ ps, Digest.ofBytes p.configBytes = Digest.ofBytes q.configBytes →
    p.configBytes = q.configBytes
  /-- No two manifests have one digest. -/
  manifests : ∀ p ∈ ps, ∀ q ∈ ps,
    Digest.ofBytes p.manifest.encode = Digest.ofBytes q.manifest.encode →
      p.manifest.encode = q.manifest.encode

/-- Nothing is mistaken for a package if it is the only one. -/
theorem told_of_only {ps : List Package} {p : Package} (only : ∀ q ∈ ps, q = p) : Told ps := by
  constructor
  all_goals
    intro q here r there _
    rw [only q here, only r there]

/-- Two packages are told apart if their parts are that have one digest. -/
theorem told_of_pair {p q : Package}
    (programs : Digest.ofBytes p.program = Digest.ofBytes q.program → p.program = q.program)
    (configs : Digest.ofBytes p.configBytes = Digest.ofBytes q.configBytes →
      p.configBytes = q.configBytes)
    (manifests : p.digest = q.digest → p.manifest.encode = q.manifest.encode) : Told [p, q] := by
  have pair {part : Package → ByteArray}
      (apart : Digest.ofBytes (part p) = Digest.ofBytes (part q) → part p = part q) :
      ∀ a ∈ [p, q], ∀ b ∈ [p, q], Digest.ofBytes (part a) = Digest.ofBytes (part b) →
        part a = part b := by
    refine List.forall_mem_cons.mpr ⟨?_, List.forall_mem_singleton.mpr ?_⟩
    · exact List.forall_mem_cons.mpr ⟨fun _ => rfl, List.forall_mem_singleton.mpr apart⟩
    · exact List.forall_mem_cons.mpr
        ⟨fun same => (apart same.symm).symm, List.forall_mem_singleton.mpr fun _ => rfl⟩
  exact ⟨pair programs, pair configs, pair manifests⟩

/-- **Digests of packages.** Where digests tell byte strings apart, the digest of a
package tells the package. -/
theorem eq_of_digest_eq {ps : List Package} (told : Told ps) {p q : Package} (here : p ∈ ps)
    (there : q ∈ ps) (same : p.digest = q.digest) : p = q := by
  obtain ⟨configs, programs⟩ := digests_of_encode_eq (told.manifests p here q there same)
  have config := config_eq_of_configBytes_eq (told.configs p here q there configs)
  have program := told.programs p here q there programs
  cases p
  cases q
  rw [mk.injEq]
  exact ⟨program, config⟩

/-- The digest of a package is reckoned from its manifest when the digests in it are known. -/
theorem digest_eq_numbers (p : Package) {program config : String}
    (programs : Digest.ofBytes p.program = program)
    (configs : Digest.ofBytes p.configBytes = config) :
    let manifest : Manifest := { p.manifest with
      config := { p.manifest.config with digest := config }
      layers := p.manifest.layers.map fun layer => { layer with digest := program } }
    p.digest = Digest.algorithm ++
      Text.hex (Sha256.Numbers.hash (Json.bytesOf (Manifest.codec.write manifest).compact)) := by
  subst programs configs
  exact p.manifest.digest_eq_numbers

theorem digest_eq_folder (p : Package) : p.digest = Digest.algorithm ++ p.folder :=
  Digest.ofBytes_eq_digits _

theorem digest_eq_of_folder_eq {p q : Package} (same : p.folder = q.folder) :
    p.digest = q.digest := Digest.ofBytes_eq_of_digits_eq same

end Package

/-- **Stages.** Every package goes onto a stage, and its digest is that of its
manifest, whatever the reference. -/
theorem Exchange.stage_eq (reference : String) (p : Package) :
    ∃ staged, stage reference p = .ok (staged, p.digest) := by
  let program := Descriptor.ofBlob Package.programName Package.programMediaType p.program none
  let config :=
    Descriptor.ofBlob Configuration.fileName Configuration.mediaType p.configBytes none
  let added := (MemoryStore.empty.add Package.programName Package.programMediaType p.program).1
  let filled := added.insertBlob config p.configBytes
  have set : added.set config p.configBytes = .ok filled := by
    rw [MemoryStore.set, Descriptor.verify_ofBlob]
    rfl
  have listed : Manifest.ofBlobs config none [program] = .ok p.manifest := rfl
  have complete :
      p.manifest.blobs.find? (fun blob => !filled.blobs.contains blob.digest) = none := by
    have blobs : p.manifest.blobs = [config, program] := rfl
    have first : filled.blobs.contains config.digest = true :=
      Dictionary.contains_insert_self _ _ _
    have second : filled.blobs.contains program.digest = true :=
      Dictionary.contains_insert (Dictionary.contains_insert_self _ _ _) _ _
    rw [blobs]
    simp [first, second]
  refine ⟨{ filled with manifests := filled.manifests.insert reference p.manifest }, ?_⟩
  have stored : filled.storeManifest reference p.manifest =
      .ok ({ filled with manifests := filled.manifests.insert reference p.manifest },
        p.digest) := by
    rw [MemoryStore.storeManifest, complete]
    rfl
  have whole : stage reference p = (do
      let staged ← added.set config p.configBytes
      let manifest ← Manifest.ofBlobs config none [program]
      staged.storeManifest reference manifest) := rfl
  rw [whole, set, listed]
  exact stored

end BpfDepot
