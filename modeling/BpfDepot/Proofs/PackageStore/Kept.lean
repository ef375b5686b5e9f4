import BpfDepot.Proofs.PackageStore.Bindings
import BpfDepot.Proofs.PackageStore.Document

/-! # Directories that hold the index of their handle

A directory is kept if every entry of the handle tells of a package on the shelf and the
file of the index holds the entries of the handle (`PackageStore.Kept`). Every operation
keeps it, whether it succeeds or not (`PackageStore.Kept.carryOut`): those that change the
index write it, and the directories that they remove are those of no entry. What is read
from a directory that is kept are the bindings of its handle
(`PackageStore.Kept.readIndex`), and so it can be opened again at any time
(`PackageStore.Kept.openAt`).

Nothing is assumed of digests here. A package whose digest is that of another one is not
written, and its entry tells of the other one.
-/

namespace BpfDepot.PackageStore

open FileTree World

-- what the bytes of a package are does not matter here, nor what their digest is
attribute [local irreducible] Package.configBytes Digest.ofBytes

variable {shelf after : Package → Prop} {directory key : String} {home : Location}
  {s : PackageStore} {w : World} {entry : StoredPackage} {index : Dictionary StoredPackage}

/-- An entry of an index tells of a package on the shelf, and a document can hold it. -/
structure Lodged (shelf : Package → Prop) (directory key : String) (entry : StoredPackage) :
    Prop where
  /-- The entry is that of the key. -/
  reference : entry.reference = key
  /-- The path is that of the packages with the digest. -/
  path : entry.path = packagePath directory entry.digest
  /-- A package with the digest is there. -/
  lies : ∃ p, shelf p ∧ p.digest = entry.digest
  /-- The entry survives its document. -/
  storable : entry.Storable

/-- All entries of an index tell of packages on the shelf. -/
def Lodging (shelf : Package → Prop) (directory : String) (index : Dictionary StoredPackage) :
    Prop :=
  ∀ key entry, index.get? key = some entry → Lodged shelf directory key entry

/-- **The invariant of a handle and its directory.** The shelf has the packages of all
entries, and the file of the index has all entries. There may be no file if there are
none. -/
structure Kept (shelf : Package → Prop) (home : Location) (s : PackageStore) (w : World) :
    Prop where
  stocked : Stocked shelf s.directory home w
  lodging : Lodging shelf s.directory s.index
  filed : Filed w.tree home s.list ∨ w.tree.node? (home ++ [indexName]) = none ∧ s.list = []

theorem mem_list_iff : entry ∈ s.list ↔ ∃ key, s.index.get? key = some entry := by
  rw [list, List.mem_mergeSort, Dictionary.mem_values_iff]

/-! ## Entries -/

theorem Lodged.mono (lodged : Lodged shelf directory key entry)
    (more : ∀ p, shelf p → after p) : Lodged after directory key entry := by
  obtain ⟨p, held, same⟩ := lodged.lies
  exact ⟨lodged.reference, lodged.path, ⟨p, more p held, same⟩, lodged.storable⟩

theorem Lodging.mono (lodging : Lodging shelf directory index) (more : ∀ p, shelf p → after p) :
    Lodging after directory index :=
  fun key entry found => (lodging key entry found).mono more

theorem Lodging.insert (lodging : Lodging shelf directory index)
    (lodged : Lodged shelf directory key entry) :
    Lodging shelf directory (index.insert key entry) := by
  intro other found bound
  by_cases same : other = key
  · subst same
    rw [Dictionary.get?_insert_self] at bound
    obtain rfl := Option.some.inj bound
    exact lodged
  · rw [Dictionary.get?_insert_of_ne index entry same] at bound
    exact lodging other found bound

theorem Lodging.erase (lodging : Lodging shelf directory index) (key : String) :
    Lodging shelf directory (index.erase key) := by
  intro other found bound
  by_cases same : other = key
  · rw [same, Dictionary.get?_erase_self] at bound
    cases bound
  · rw [Dictionary.get?_erase_of_ne index same] at bound
    exact lodging other found bound

/-- The directory of an entry is there. -/
theorem Lodged.present (lodged : Lodged shelf directory key entry)
    (stocked : Stocked shelf directory home w) :
    (w.tree.kind? w.working entry.path).isSome = true := by
  obtain ⟨p, held, same⟩ := lodged.lies
  rw [lodged.path, ← same, packagePath]
  change (w.tree.kind? w.working (Path.join (Path.join directory shelfName) p.folder)).isSome = true
  have lies := stocked.lies held
  rw [kind?_join (stocked.at_home.join isName_shelf lies.shelf) p.isName_folder, lies.place]
  rfl

/-- Only the file system matters, and that no call is broken off. -/
theorem Kept.of_tree_eq {w' : World} (kept : Kept shelf home s w) (tree : w'.tree = w.tree)
    (working : w'.working = w.working) (interruptions : w'.interruptions = w.interruptions) :
    Kept shelf home s w' := by
  refine ⟨kept.stocked.of_tree_eq tree working interruptions, kept.lodging, ?_⟩
  rw [tree]
  exact kept.filed

/-- **The beginning.** Where nothing stands below the place of its directory a store is opened
that keeps its directory. -/
theorem kept_of_openAt {before : World} (quiet : before.Quiet)
    (standing : before.tree.node? before.working = some .directory)
    (direct : Direct before.working directory)
    (fresh : before.tree.Bare (spot before.working directory))
    (opened : Runs (PackageStore.openAt directory) before (.ok s) w) :
    Kept (fun _ => False) (spot before.working directory) s w := by
  obtain ⟨rfl, -, -, bare⟩ := bare_of_openAt opened quiet standing direct fresh
  obtain ⟨-, stocked⟩ := openAt_of_bare opened quiet standing direct fresh
  have missing := bare (spot before.working directory ++ [indexName]) (List.prefix_append _ _)
    (by simp)
  refine ⟨stocked, ?_, Or.inr ⟨missing, List.mergeSort_nil⟩⟩
  intro key entry found
  cases found

theorem Probe.kept : Kept (fun _ => False) ["store"] Probe.store Probe.world :=
  kept_of_openAt Probe.quiet Probe.standing Probe.direct Probe.fresh Probe.opened

/-! ## Reading the index -/

/-- **Reading.** If the file of the index holds the entries of a handle, or there is no file and
there are no entries, then those entries are read of which the directories are there. -/
theorem readIndex_of_list (at_home : w.tree.Home w.working directory home) (quiet : w.Quiet)
    (references : ∀ key entry, s.index.get? key = some entry → entry.reference = key)
    (filed : Filed w.tree home s.list ∨
      w.tree.node? (home ++ [indexName]) = none ∧ s.list = []) :
    ∃ index, Runs (readIndex directory) w (.ok index) w ∧ ∀ key entry,
      index.get? key = some entry ↔ s.index.get? key = some entry ∧
        (w.tree.kind? w.working entry.path).isSome = true := by
  have listed {key : String} {entry : StoredPackage} :
      entry ∈ s.list ∧ entry.reference = key ↔ s.index.get? key = some entry := by
    rw [mem_list_iff]
    constructor
    · rintro ⟨⟨name, found⟩, rfl⟩
      rwa [references name entry found]
    · exact fun found => ⟨⟨key, found⟩, references key entry found⟩
  rcases filed with filed | ⟨missing, empty⟩
  · refine ⟨_, readIndex_of_filed at_home quiet filed, fun key entry => ?_⟩
    rw [get?_indexOf_iff, listed]
    intro one here other there same
    have found := listed.mp ⟨here, same.symm⟩
    rw [listed.mp ⟨there, rfl⟩] at found
    exact Option.some.inj found
  · have nothing : w.tree.kind? w.working (indexPath directory) = none :=
      (kind?_join at_home isName_index).trans (congrArg _ missing)
    refine ⟨{}, readIndex_of_missing nothing, fun key entry => ?_⟩
    rw [← listed, empty]
    exact ⟨nofun, nofun⟩

/-- What is read are the bindings of the handle. -/
theorem Kept.readIndex (kept : Kept shelf home s w) : ∃ index,
    Runs (readIndex s.directory) w (.ok index) w ∧ ∀ key, index.get? key = s.index.get? key := by
  obtain ⟨index, read, found⟩ := readIndex_of_list kept.stocked.at_home kept.stocked.quiet
    (fun key entry bound => (kept.lodging key entry bound).reference) kept.filed
  refine ⟨index, read, fun key => Option.ext fun entry => (found key entry).trans ?_⟩
  exact and_iff_left_of_imp fun bound => (kept.lodging key entry bound).present kept.stocked

/-- **Opening again.** The directory is opened with the bindings of the handle, and nothing
changes. -/
theorem Kept.openAt (kept : Kept shelf home s w) : ∃ index,
    Runs (openAt s.directory) w (.ok { directory := s.directory, index }) w ∧
      ∀ key, index.get? key = s.index.get? key := by
  obtain ⟨index, read, same⟩ := kept.readIndex
  exact ⟨index, openAt_of_readIndex kept.stocked.at_home kept.stocked.quiet read, same⟩

/-! ## Bringing the directory into line -/

/-- The bytes of a text are a text. -/
theorem fromUTF8?_toUTF8 (text : String) : String.fromUTF8? text.toUTF8 = some text := by
  have valid : text.toUTF8.IsValidUTF8 := text.isValidUTF8
  rw [String.fromUTF8?, dif_pos valid]
  rfl

/-- What has been written are the entries of the handle, if a document can hold them. -/
theorem Written.filed {t : FileTree} (written : Written t home s)
    (storable : ∀ key entry, s.index.get? key = some entry → entry.Storable) :
    Filed t home s.list := by
  refine ⟨_, _, written, fromUTF8?_toUTF8 _, decodeText_encodeLines fun entry member => ?_⟩
  obtain ⟨key, bound⟩ := mem_list_iff.mp member
  exact storable key entry bound

/-- When the index is written the directory is kept. -/
theorem Stocked.file (stocked : Stocked shelf s.directory home w)
    (lodging : Lodging shelf s.directory s.index) :
    ∃ tree, Runs (PackageStore.writeIndex s) w (.ok ()) { w with tree } ∧
      Kept shelf home s { w with tree } := by
  obtain ⟨tree, writes, written, after⟩ := stocked.writeIndex
  exact ⟨tree, writes, after, lodging,
    Or.inl (written.filed fun key entry bound => (lodging key entry bound).storable)⟩

/-- What an entry leaves unused is removed, and no package of an entry is. -/
theorem Stocked.clearUnused (stocked : Stocked shelf s.directory home w)
    (lodging : Lodging shelf s.directory s.index) (lodged : Lodged shelf s.directory key entry) :
    ∃ tree after, Runs (PackageStore.clearUnused s entry) w (.ok ()) { w with tree } ∧
      Stocked after s.directory home { w with tree } ∧ Lodging after s.directory s.index := by
  unfold PackageStore.clearUnused
  by_cases used : Used s.index entry.digest
  · rw [any_digest_iff.mpr used]
    exact ⟨w.tree, shelf, Runs.pure _ _, stocked, lodging⟩
  · obtain ⟨p, held, same⟩ := lodged.lies
    obtain ⟨tree, clears, between⟩ := stocked.clear_of_held held
    rw [Bool.eq_false_iff.mpr fun any => used (any_digest_iff.mp any), lodged.path, ← same]
    refine ⟨tree, _, clears.explain _, between, fun name other bound => ?_⟩
    obtain ⟨reference, path, ⟨q, there, digest⟩, storable⟩ := lodging name other bound
    refine ⟨reference, path, ⟨q, ⟨there, fun folder => used ?_⟩, digest⟩, storable⟩
    exact ⟨name, other, bound,
      digest.symm.trans ((Package.digest_eq_of_folder_eq folder).trans same)⟩

/-- **Aligning.** When the directory has been brought into line with the index it is kept. -/
theorem Stocked.align (stocked : Stocked shelf s.directory home w)
    (lodging : Lodging shelf s.directory s.index) {replaced : Option StoredPackage}
    (old : ∀ entry, replaced = some entry → ∃ key, Lodged shelf s.directory key entry) :
    ∃ tree after, Runs (PackageStore.align s replaced) w (.ok ()) { w with tree } ∧
      Kept after home s { w with tree } := by
  cases replaced with
  | none =>
      obtain ⟨tree, writes, kept⟩ := stocked.file lodging
      exact ⟨tree, shelf, writes, kept⟩
  | some entry =>
      obtain ⟨key, lodged⟩ := old entry rfl
      obtain ⟨cleared, after, clears, between, still⟩ := stocked.clearUnused lodging lodged
      obtain ⟨tree, writes, kept⟩ := between.file still
      exact ⟨tree, after, clears.bind writes, kept⟩

/-! ## Preparing a change -/

/-- **Shelving.** After a package has been shelved there is one with its digest on the
shelf, and whatever was there before. -/
theorem Stocked.shelve (stocked : Stocked shelf directory home w) (p : Package) :
    ∃ tree after, Runs (PackageStore.shelve directory p) w (.ok ()) { w with tree } ∧
      Stocked after directory home { w with tree } ∧ (∀ q, shelf q → after q) ∧
      ∃ q, after q ∧ q.digest = p.digest := by
  unfold PackageStore.shelve
  by_cases free : ∀ q, shelf q → q.folder ≠ p.folder
  · obtain ⟨tree, writes, after⟩ := stocked.writePackage_of_free free
    refine ⟨tree, _, ?_, after, fun q => Or.inl, p, Or.inr rfl, rfl⟩
    exact (Runs.lift (stocked.isComplete_of_free free)).bind (writes.explain _)
  · push Not at free
    obtain ⟨q, held, folder⟩ := free
    have same := Package.digest_eq_of_folder_eq folder
    have complete := stocked.isComplete_of_held held
    rw [same] at complete
    exact ⟨w.tree, shelf, (Runs.lift complete).bind (Runs.pure _ _), stocked,
      fun _ => id, q, held, same⟩

/-- What an operation has prepared when it may be committed: entries of packages on the
shelf, also the one that is replaced. -/
structure Ready (shelf : Package → Prop) (home : Location) (directory : String) (change : Change)
    (w : World) : Prop where
  stocked : Stocked shelf directory home w
  lodging : Lodging shelf directory change.index
  replaced : ∀ entry, change.replaced = some entry → ∃ key, Lodged shelf directory key entry

/-- Binding an entry of a package on the shelf is ready to be committed. -/
theorem Lodging.binding (lodging : Lodging shelf s.directory s.index)
    (stocked : Stocked shelf s.directory home w) (lodged : Lodged shelf s.directory key entry) :
    Ready shelf home s.directory (.binding s entry) w := by
  obtain rfl := lodged.reference
  exact ⟨stocked, lodging.insert lodged, fun old bound => ⟨_, lodging _ old bound⟩⟩

/-- The entry of a package that has been shelved tells of a package on the shelf. -/
theorem lodged_entryOf (directory key : String) {p : Package}
    (there : ∃ q, shelf q ∧ q.digest = p.digest) (small : p.size < 2 ^ 64) {created : Instant}
    (valid : created.Valid) :
    Lodged shelf directory key (entryOf directory key p created) where
  reference := rfl
  path := rfl
  lies := there
  storable := by
    refine ⟨?_, valid⟩
    rwa [Package.size] at small

/-- **Preparing.** An operation that cannot prepare its change leaves everything as it is,
and a change that is prepared is ready to be committed. -/
theorem Kept.prepare (kept : Kept shelf home s w) (clock : ∀ i, (w.clock i).Valid)
    {operation : Operation} (small : ∀ p ∈ operation.packages, p.size < 2 ^ 64) :
    (∃ error, Operates operation.prepare s w (.error error) s w) ∨
      ∃ change tree readings after,
        Operates operation.prepare s w (.ok change) s { w with tree, readings } ∧
          Ready after home s.directory change { w with tree, readings } := by
  cases operation with
  | put text p =>
      cases canonical : Reference.canonical text with
      | error fault =>
          exact Or.inl ⟨_, ((keyOf_of_error canonical s w).bind_error _).bind_error _⟩
      | ok key =>
          obtain ⟨tree, after, shelved, stocked, more, there⟩ := kept.stocked.shelve p
          have lodged := lodged_entryOf s.directory key there (small p List.mem_cons_self)
            (clock w.readings)
          exact Or.inr ⟨_, tree, w.readings + 1, after,
            Operation.prepare_put (operates_newEntry canonical shelved),
            (kept.lodging.mono more).binding (stocked.of_tree_eq rfl rfl rfl) lodged⟩
  | tag source target =>
      cases found : s.get? source with
      | none =>
          exact Or.inl ⟨_, (operates_copyEntry_of_missing target found).bind_error _⟩
      | some entry =>
          cases canonical : Reference.canonical target with
          | error fault =>
              exact Or.inl ⟨_, (operates_copyEntry_of_error found canonical).bind_error _⟩
          | ok key =>
              obtain ⟨name, bound⟩ := index_of_get? found
              have old := kept.lodging name entry bound
              have lodged : Lodged shelf s.directory key
                  { entry with reference := key, created := w.clock w.readings } :=
                ⟨rfl, old.path, old.lies, old.storable.size, clock w.readings⟩
              exact Or.inr ⟨_, w.tree, w.readings + 1, shelf,
                Operation.prepare_tag (operates_copyEntry found canonical),
                kept.lodging.binding (kept.stocked.of_tree_eq rfl rfl rfl) lodged⟩
  | remove text =>
      cases canonical : Reference.canonical text with
      | error fault => exact Or.inl ⟨_, (keyOf_of_error canonical s w).bind_error _⟩
      | ok key =>
          cases bound : s.index.get? key with
          | none => exact Or.inl ⟨_, Operation.prepare_remove_of_missing canonical bound⟩
          | some entry =>
              refine Or.inr ⟨_, w.tree, w.readings, shelf,
                Operation.prepare_remove canonical bound, kept.stocked, kept.lodging.erase key, ?_⟩
              rintro _ ⟨⟩
              exact ⟨key, kept.lodging key entry bound⟩

/-! ## Carrying out an operation -/

namespace Operation

/-- An operation is performed as it is carried out. -/
theorem perform_of_carryOut {operation : Operation} {s' : PackageStore} {w' : World}
    {result : Except Error (Option StoredPackage)}
    (carried : Operates operation.carryOut s w result s' w') :
    Operates operation.perform s w (result.map fun _ => ()) s' w' := by
  rw [perform_eq_map, map_eq_pure_bind]
  cases result with
  | error error => exact carried.bind_error _
  | ok bound => exact carried.bind (Operates.pure _ _ _)

theorem carryOut_of_error {operation : Operation} {error : Error} {s' : PackageStore} {w' : World}
    (early : Operates operation.prepare s w (.error error) s' w') :
    Operates operation.carryOut s w (.error error) s' w' := by
  rw [carryOut_eq]
  exact early.bind_error _

theorem carryOut_of_ok {operation : Operation} {change : Change} {v w' : World}
    (prepared : Operates operation.prepare s w (.ok change) s v)
    (aligned : Runs (align { s with index := change.index } change.replaced) v (.ok ()) w') :
    ∃ events, Operates operation.carryOut s w (.ok change.bound) { s with index := change.index }
      { w' with events } := by
  obtain ⟨events, told⟩ := operation.operates_tell change.bound w'
  refine ⟨events, ?_⟩
  rw [carryOut_eq]
  exact prepared.bind ((operates_commit _ _ aligned).bind ((told _).bind (Operates.pure _ _ _)))

end Operation

/-- **Steps.** Every operation keeps the directory, and none of them turns the clock. -/
theorem Kept.carryOut (kept : Kept shelf home s w) (clock : ∀ i, (w.clock i).Valid)
    {operation : Operation} (small : ∀ p ∈ operation.packages, p.size < 2 ^ 64) :
    ∃ result s' w' after, Operates operation.carryOut s w result s' w' ∧ Kept after home s' w' ∧
      s'.directory = s.directory ∧ w'.clock = w.clock := by
  rcases kept.prepare clock small with
    ⟨error, failed⟩ | ⟨change, tree, readings, between, prepared, ready⟩
  · exact ⟨_, s, w, shelf, Operation.carryOut_of_error failed, kept, rfl, rfl⟩
  · obtain ⟨tree, after, aligned, next⟩ :=
      ready.stocked.align (s := { s with index := change.index }) ready.lodging ready.replaced
    obtain ⟨events, done⟩ := Operation.carryOut_of_ok prepared aligned
    exact ⟨_, _, _, after, done, next.of_tree_eq rfl rfl rfl, rfl, rfl⟩

end BpfDepot.PackageStore
