import BpfDepot.Proofs.PackageStore.Failure
import BpfDepot.Proofs.PackageStore.Opening

/-! # What a failure leaves in the directory

An operation that fails, however its calls fail, changes nothing in the directory of its
store but the package that it writes, the package that it removes, and the file that the
index is written to before it takes its place (`PackageStore.spared_of_failure`). So when the
store is opened again every reference still loads its package, except that of the operation
if the package under it was removed (`PackageStore.survives_iff`).
-/

namespace BpfDepot.PackageStore

open FileTree World

variable {directory folder : String} {home : Location} {keep : String → Prop} {p : Package}
  {s s' : PackageStore} {w w' : World}

/-! ## States of a store -/

/-- The path and the digest of an entry are those of a directory on the shelf. -/
structure Placed (directory : String) (entry : StoredPackage) : Prop where
  path : entry.path = packagePath directory entry.digest
  digest : entry.digest = Digest.algorithm ++ Digest.digits entry.digest
  present : Digest.digits entry.digest ≠ ""
  plain : ∀ c ∈ (Digest.digits entry.digest).toList, c ≠ '/' ∧ c ≠ '.'

/-- A store is saved if the file of the index holds the entries of the handle, and every
one of them can be loaded. -/
structure Saved (s : PackageStore) (home : Location) (w : World) : Prop where
  /-- The directory of the store is there. -/
  at_home : w.tree.Home w.working s.directory home
  /-- The handle and the file have the same entries. There may be no file if there are
  none. -/
  index : ∃ entries, (∀ key entry, s.index.get? key = some entry ↔
    entry ∈ entries ∧ entry.reference = key) ∧ (entries = [] ∨ Filed w.tree home entries)
  /-- The entries tell of directories on the shelf. -/
  placed : ∀ key entry, s.index.get? key = some entry → Placed s.directory entry
  /-- Their packages can be loaded. -/
  loads : ∀ key entry, s.index.get? key = some entry →
    ∃ p, Runs (readPackage entry.path) w.calm (.ok p) w.calm

/-- **Survival.** What a text loads in one world it loads in another when the store has been
opened again there. -/
def Survives (s : PackageStore) (w w' : World) (text : String) : Prop :=
  ∀ p, Runs (s.load text) w.calm (.ok p) w.calm → ∃ t v,
    Runs (openAt s.directory) w'.calm (.ok t) v ∧ Runs (t.load text) v (.ok p) v

theorem Placed.isName {entry : StoredPackage} (placed : Placed directory entry) :
    Path.IsName (Digest.digits entry.digest) :=
  (Path.isName_of_plain placed.present placed.plain).1

theorem Placed.readPackage_iff {entry : StoredPackage} (placed : Placed directory entry)
    (at_home : w.tree.Home w.working directory home) :
    Runs (readPackage entry.path) w.calm (.ok p) w.calm ↔
      Lies w.tree home (Digest.digits entry.digest) p := by
  rw [placed.path]
  exact readPackage_iff_lies (w := w.calm) at_home (quiet_calm w) placed.isName

/-! ## What the parts of an operation leave alone -/

/-- The places of a store that are neither in other directories of the shelf than some nor
where the index is written. -/
def Guarded (home : Location) (keep : String → Prop) (p : Location) : Prop :=
  ¬ home ++ [Path.temporary indexName] <+: p ∧
    ∀ folder, home ++ [shelfName] ++ [folder] <+: p → keep folder

/-- One world has at the places that are safe what the other has there. -/
def Spared (safe : Location → Prop) (w w' : World) : Prop :=
  w'.working = w.working ∧ Spares safe w.tree w'.tree

theorem Spared.trans {safe : Location → Prop} {v : World} (first : Spared safe w v)
    (second : Spared safe v w') : Spared safe w w' :=
  ⟨second.1.trans first.1, first.2.trans second.2⟩

theorem Spared.of_eq {safe : Location → Prop} (tree : w'.tree = w.tree)
    (working : w'.working = w.working) : Spared safe w w' :=
  ⟨working, tree ▸ Spares.refl _ _⟩

/-- Steps keep what is safe. -/
abbrev Sparing {ε α : Type} (safe : Location → Prop) (w : World) (step : ExceptT ε WorldM α) :
    Prop :=
  Keeps (fun tree working => working = w.working ∧ Spares safe w.tree tree) step

theorem Sparing.spared {ε α : Type} {safe : Location → Prop} {step : ExceptT ε WorldM α}
    {result : Except ε α} (sparing : Sparing safe w step) (runs : Runs step w result w') :
    Spared safe w w' := sparing _ _ _ ⟨rfl, Spares.refl _ _⟩ runs

/-- **Calls** apart from what is safe spare it, also when they are broken off. -/
theorem sparing_attempt {α : Type} {safe : Location → Prop} {request : FileCall α}
    (apart : ∀ t, Apart safe t w.working (changes request)) :
    Sparing safe w (Files.attempt request) := by
  refine Keeps.attempt ?_ ?_
  · rintro t _ ⟨rfl, spares⟩
    exact ⟨rfl, spares.trans (spares_call (apart t))⟩
  · rintro t _ steps ⟨rfl, spares⟩
    exact ⟨rfl, spares.trans (spares_brokenOff steps (apart t))⟩

theorem sparing_clear {safe : Location → Prop} {path : String}
    (apart : ∀ t, Apart safe t w.working [path]) : Sparing safe w (clear path) := by
  refine (Keeps.isPresent path).bind fun present => ?_
  split
  · exact sparing_attempt apart
  · exact Keeps.pure _

/-- A directory on the shelf that is not kept is apart from what is guarded. -/
theorem apart_folder (ends : spot w.working directory = home) (plain : Path.IsName folder)
    (lost : ¬ keep folder) (t : FileTree) :
    Apart (Guarded home keep) t w.working [Path.join (Path.join directory shelfName) folder] := by
  refine apart_join plain fun p below guarded => ?_
  rw [spot_join isName_shelf, ends] at below
  exact lost (guarded.2 folder below)

theorem apart_file (ends : spot w.working directory = home) (plain : Path.IsName folder)
    (lost : ¬ keep folder) {name : String} (named : Path.IsName name) (t : FileTree) :
    Apart (Guarded home keep) t w.working
      [Path.join (Path.join (Path.join directory shelfName) folder) name] := by
  refine apart_join named fun p below guarded => ?_
  rw [spot_join plain, spot_join isName_shelf, ends] at below
  exact lost (guarded.2 folder ((List.prefix_append _ _).trans below))

/-- **Writing a package** spares the directories on the shelf that are neither that of the
package nor the one beside it. -/
theorem sparing_writePackage (ends : spot w.working directory = home)
    (lost : ¬ keep p.folder) (beside : ¬ keep (Path.temporary p.folder)) :
    Sparing (Guarded home keep) w (writePackage (packagePath directory p.digest) p) := by
  have target (t : FileTree) :
      Apart (Guarded home keep) t w.working [packagePath directory p.digest] :=
    apart_folder ends p.isName_folder lost t
  have draft := apart_folder ends p.isName_temporary beside
  have drafted {name : String} (named : Path.IsName name) :=
    apart_file ends p.isName_temporary beside named
  unfold writePackage
  rw [temporary_packagePath]
  refine (sparing_clear draft).bind fun _ => (sparing_clear target).bind fun _ =>
    (sparing_attempt fun t => nofun).bind fun _ => ?_
  exact (sparing_attempt (drafted isName_program)).bind fun _ =>
    (sparing_attempt (drafted isName_config)).bind fun _ =>
      sparing_attempt fun t => (draft t).pair (target t)

/-- Some directories on the shelf are kept, and each of them has a package. -/
structure Keepable (w : World) (home : Location) (keep : String → Prop) : Prop where
  /-- No name has a point, as the names beside packages do. -/
  plain : ∀ folder, keep folder → '.' ∉ folder.toList
  /-- There is a package. -/
  lies : ∀ folder, keep folder → ∃ p, Lies w.tree home folder p

/-- A package that is put in its directory is written only where no package lies. -/
theorem spared_of_shelve {result : Except Error Unit}
    (at_home : w.tree.Home w.working directory home) (keepable : Keepable w home keep)
    (runs : Runs (shelve directory p) w result w') : Spared (Guarded home keep) w w' := by
  by_cases kept : keep p.folder
  · obtain ⟨q, lies⟩ := keepable.lies _ kept
    have further := (Runs.lift (lies.isComplete at_home p.isName_folder)).rest runs
    obtain ⟨-, rfl⟩ := (Runs.pure () w).unique further
    exact Spared.of_eq rfl rfl
  · have beside : ¬ keep (Path.temporary p.folder) := by
      intro kept
      refine keepable.plain _ kept ?_
      rw [Path.temporary, String.toList_append, List.mem_append]
      exact Or.inr (by decide)
    obtain ⟨complete, looked⟩ : ∃ complete,
        (isComplete (packagePath directory p.digest) : WorldM Bool) w = (complete, w) :=
      ⟨_, isComplete_eq _ w⟩
    have further := (Runs.lift looked).rest runs
    cases complete with
    | true =>
        obtain ⟨-, rfl⟩ := (Runs.pure () w).unique further
        exact Spared.of_eq rfl rfl
    | false =>
        exact Sparing.spared ((sparing_writePackage at_home.ends kept beside).explain _) further

/-- **Preparing** spares the packages that are there. -/
theorem spared_of_prepare {operation : Operation} {result : Except Error Change}
    (at_home : w.tree.Home w.working s.directory home) (keepable : Keepable w home keep)
    (prepared : Operates operation.prepare s w result s' w') : Spared (Guarded home keep) w w' := by
  cases operation with
  | put text p =>
      obtain ⟨outcome, made, -⟩ :=
        Operation.of_binding (fun _ _ _ _ _ made => (newEntry_cases made).1) prepared
      rcases (newEntry_cases made).2 with ⟨_, -, rfl⟩ | ⟨_, _, v, -, shelved, tree, working, -⟩
      · exact Spared.of_eq rfl rfl
      · exact (spared_of_shelve at_home keepable shelved).trans (Spared.of_eq tree working)
  | tag source target =>
      obtain ⟨outcome, made, -⟩ :=
        Operation.of_binding (fun _ _ _ _ _ made => (copyEntry_cases made).1) prepared
      exact Spared.of_eq (copyEntry_cases made).2.1 (copyEntry_cases made).2.2.1
  | remove text =>
      obtain ⟨rfl, -⟩ := Operation.prepare_remove_cases prepared
      exact Spared.of_eq rfl rfl

/-- Clearing the directory of an entry spares the others, and it too if it is used. -/
theorem spared_of_clearUnused {entry : StoredPackage} {result : Except Error Unit}
    (ends : spot w.working s.directory = home) (placed : Placed s.directory entry)
    (spare : Used s.index entry.digest ∨ ¬ keep (Digest.digits entry.digest))
    (runs : Runs (clearUnused s entry) w result w') : Spared (Guarded home keep) w w' := by
  unfold clearUnused at runs
  split at runs
  · next unused =>
    have lost : ¬ keep (Digest.digits entry.digest) := by
      refine spare.resolve_left fun used => ?_
      rw [any_digest_iff.mpr used] at unused
      cases unused
    rw [placed.path] at runs
    exact Sparing.spared ((sparing_clear (apart_folder ends placed.isName lost)).explain _) runs
  · obtain ⟨-, rfl⟩ := (Runs.pure () w).unique runs
    exact Spared.of_eq rfl rfl

/-- **Writing the index**, when it fails, spares the index and the packages. -/
theorem spared_of_writeIndex {error : Error} (ends : spot w.working s.directory = home)
    (broken : Runs (writeIndex s) w (.error error) w') : Spared (Guarded home keep) w w' := by
  have draft (t : FileTree) : Apart (Guarded home keep) t w.working
      [Path.temporary (indexPath s.directory)] := by
    rw [temporary_indexPath]
    refine apart_join isName_draft fun p below guarded => ?_
    rw [ends] at below
    exact guarded.1 below
  rcases Runs.bind_cases broken with ⟨fault, failed, -⟩ | ⟨_, v, wrote, failed⟩
  · exact Sparing.spared ((sparing_attempt draft).explain _) failed
  · obtain ⟨outcome, renamed, same⟩ := failed.of_explain
    cases outcome with
    | ok _ => cases same
    | error fault =>
        obtain ⟨tree, working⟩ := renamed.of_rename_error
        exact (Sparing.spared ((sparing_attempt draft).explain _) wrote).trans
          (Spared.of_eq tree working)

/-- Bringing the directory into line, when it fails, spares the index and the packages, but
for the one that is replaced. -/
theorem spared_of_align {replaced : Option StoredPackage} {error : Error}
    (ends : spot w.working s.directory = home)
    (placed : ∀ old, replaced = some old → Placed s.directory old)
    (spare : ∀ old, replaced = some old →
      Used s.index old.digest ∨ ¬ keep (Digest.digits old.digest))
    (broken : Runs (align s replaced) w (.error error) w') : Spared (Guarded home keep) w w' := by
  cases replaced with
  | none => exact spared_of_writeIndex ends broken
  | some old =>
      rcases Runs.bind_cases broken with ⟨fault, failed, -⟩ | ⟨_, v, cleared, failed⟩
      · exact spared_of_clearUnused ends (placed old rfl) (spare old rfl) failed
      · have first := spared_of_clearUnused ends (placed old rfl) (spare old rfl) cleared
        exact first.trans (spared_of_writeIndex (by rw [first.1, ends]) failed)

/-! ## What an operation leaves alone -/

/-- What a change replaces is the entry of the handle under the reference of the subject. -/
theorem replaced_of_prepared {operation : Operation} {change : Change}
    (prepared : Operates operation.prepare s w (.ok change) s' w') :
    ∃ key, Reference.canonical operation.subject = .ok key ∧
      change.replaced = s.index.get? key := by
  obtain ⟨key, canonical, ⟨entry, rfl, rfl⟩ | ⟨entry, found, rfl⟩⟩ :=
    Operation.of_prepare_ok prepared
  · exact ⟨_, canonical, rfl⟩
  · exact ⟨key, canonical, found.symm⟩

theorem index_of_prepared {operation : Operation} {change : Change} {key : String}
    (prepared : Operates operation.prepare s w (.ok change) s' w')
    (other : Reference.canonical operation.subject ≠ .ok key) :
    change.index.get? key = s.index.get? key := by
  obtain ⟨subject, canonical, ⟨entry, rfl, rfl⟩ | ⟨entry, -, rfl⟩⟩ :=
    Operation.of_prepare_ok prepared
  · exact Dictionary.get?_insert_of_ne _ _ fun same => other (same ▸ canonical)
  · exact Dictionary.get?_erase_of_ne _ fun same => other (same ▸ canonical)

/-- **Failures** of an operation spare the index and the packages that are there, but for
the one that is replaced. -/
theorem spared_of_failure {operation : Operation} {error : Error} (saved : Saved s home w)
    (keepable : Keepable w home keep)
    (failed : Operates operation.perform s w (.error error) s' w')
    (spare : ∀ change v old, Operates operation.prepare s w (.ok change) s v →
      change.replaced = some old →
        Used change.index old.digest ∨ ¬ keep (Digest.digits old.digest)) :
    Spared (Guarded home keep) w w' := by
  rcases Operation.failure_cases failed with ⟨early, -⟩ | ⟨change, v, prepared, -, broken⟩
  · exact spared_of_prepare saved.at_home keepable early
  · have first := spared_of_prepare saved.at_home keepable prepared
    refine first.trans (spared_of_align ?_ ?_ (fun old => spare change v old prepared) broken)
    · rw [first.1]
      exact saved.at_home.ends
    · intro old replaced
      obtain ⟨key, -, found⟩ := replaced_of_prepared prepared
      exact saved.placed key old (found.symm.trans replaced)

/-! ## Opening the store again -/

theorem Spared.mono {fewer : String → Prop} (spared : Spared (Guarded home keep) w w')
    (only : ∀ folder, fewer folder → keep folder) : Spared (Guarded home fewer) w w' :=
  ⟨spared.1, spared.2.mono fun _ guarded =>
    ⟨guarded.1, fun folder below => only folder (guarded.2 folder below)⟩⟩

theorem guarded_of_route (at_home : w.tree.Home w.working directory home) {place : Location}
    (member : place ∈ route (start w.working directory) (Path.names directory)) :
    Guarded home keep place := by
  have outside := at_home.apart place member
  refine ⟨not_below_of_outside outside (by simp), fun folder below => absurd below ?_⟩
  rw [List.append_assoc]
  exact not_below_of_outside outside (by simp)

theorem guarded_index : Guarded home keep (home ++ [indexName]) := by
  constructor
  · rw [List.prefix_append_right_inj]
    simp [indexName, Path.temporary]
  · intro folder below
    rw [List.append_assoc, List.prefix_append_right_inj] at below
    simp [indexName, shelfName] at below

/-- The directory around the packages is guarded, and so are those that are kept. -/
theorem guarded_shelf {rest : Location} (kept : ∀ folder, [folder] <+: rest → keep folder) :
    Guarded home keep (home ++ [shelfName] ++ rest) := by
  constructor
  · rw [List.append_assoc, List.prefix_append_right_inj]
    simp [shelfName, indexName, Path.temporary]
  · intro folder below
    exact kept folder (by rwa [List.prefix_append_right_inj] at below)

/-- A package in a directory that is kept still lies there. -/
theorem Lies.of_spared (lies : Lies w.tree home folder p)
    (spared : Spared (Guarded home keep) w w') (kept : keep folder) :
    Lies w'.tree home folder p := by
  have inside (rest : Location) : Guarded home keep (home ++ [shelfName] ++ [folder] ++ rest) := by
    rw [List.append_assoc _ [folder]]
    refine guarded_shelf fun other below => ?_
    obtain rfl : other = folder := by simpa using below
    exact kept
  obtain ⟨bytes, config, decoded⟩ := lies.config
  constructor
  · have shelf : Guarded home keep (home ++ [shelfName] ++ []) := guarded_shelf (by simp)
    rw [List.append_nil] at shelf
    exact spared.2 _ shelf _ lies.shelf
  · have place := inside []
    rw [List.append_nil] at place
    exact spared.2 _ place _ lies.place
  · exact spared.2 _ (inside _) _ lies.program
  · exact ⟨bytes, spared.2 _ (inside _) _ config, decoded⟩

theorem Lies.present (lies : Lies w.tree home folder p)
    (at_home : w.tree.Home w.working directory home) (plain : Path.IsName folder) :
    (w.tree.kind? w.working (Path.join (Path.join directory shelfName) folder)).isSome = true := by
  rw [kind?_join (at_home.join isName_shelf lies.shelf) plain, lies.place]
  rfl

/-- **Reopening.** When the index is spared the store can be opened again, with the entries
of which the directories are there. -/
theorem Saved.reopens (saved : Saved s home w) {key : String} {entry : StoredPackage}
    (found : s.index.get? key = some entry)
    (frame : Spared (Guarded home fun _ => False) w w') :
    w'.tree.Home w'.working s.directory home ∧ ∃ entries,
      (∀ key entry, s.index.get? key = some entry ↔ entry ∈ entries ∧ entry.reference = key) ∧
      Runs (openAt s.directory) w'.calm
        (.ok { directory := s.directory, index := indexOf w'.calm entries }) w'.calm := by
  obtain ⟨entries, listed, empty | ⟨bytes, text, file, decoded, parsed⟩⟩ := saved.index
  · obtain ⟨member, -⟩ := (listed key entry).mp found
    rw [empty] at member
    cases member
  · have at_home : w'.tree.Home w'.working s.directory home := by
      rw [frame.1]
      refine ⟨fun place member => ?_, saved.at_home.ends, saved.at_home.apart⟩
      exact frame.2 place (guarded_of_route saved.at_home member) _
        (saved.at_home.reached place member)
    have filed : Filed w'.tree home entries :=
      ⟨bytes, text, frame.2 _ guarded_index _ file, decoded, parsed⟩
    exact ⟨at_home, entries, listed,
      openAt_of_filed (w := w'.calm) at_home (quiet_calm w') filed⟩

theorem load_iff {text key : String} {entry : StoredPackage} {result : Except Error Package}
    (canonical : Reference.canonical text = .ok key) (found : s.index.get? key = some entry) :
    Runs (s.load text) w result w' ↔ Runs (readPackage entry.path) w result w' := by
  unfold load
  rw [get?_of_canonical canonical, found]

theorem entry_of_load {text : String} (loaded : Runs (s.load text) w (.ok p) w') :
    ∃ key entry, Reference.canonical text = .ok key ∧ s.index.get? key = some entry := by
  cases found : s.get? text with
  | none =>
      unfold load at loaded
      rw [found] at loaded
      exact nomatch ((Runs.throw _ _).unique loaded).1
  | some entry =>
      obtain ⟨key, both⟩ := canonical_of_get? found
      exact ⟨key, entry, both⟩

/-- An entry survives if the index is spared and its package is still read. -/
theorem Saved.survives (saved : Saved s home w) {text key : String} {entry : StoredPackage}
    (canonical : Reference.canonical text = .ok key) (found : s.index.get? key = some entry)
    (frame : Spared (Guarded home fun _ => False) w w')
    (still : ∀ p, Runs (readPackage entry.path) w.calm (.ok p) w.calm →
      Runs (readPackage entry.path) w'.calm (.ok p) w'.calm) : Survives s w w' text := by
  intro p loaded
  have read := still p ((load_iff canonical found).mp loaded)
  obtain ⟨at_home, entries, listed, opened⟩ := saved.reopens found frame
  have placed := saved.placed key entry found
  have there : (w'.tree.kind? w'.working entry.path).isSome = true := by
    rw [placed.path]
    exact ((placed.readPackage_iff at_home).mp read).present at_home placed.isName
  obtain ⟨member, rfl⟩ := (listed key entry).mp found
  have again : (indexOf w'.calm entries).get? entry.reference = some entry := by
    refine get?_indexOf member there fun other one same => ?_
    have twice := (listed entry.reference other).mpr ⟨one, same⟩
    rw [found] at twice
    exact (Option.some.inj twice).symm
  exact ⟨_, _, opened, (load_iff canonical again).mpr read⟩

/-- An entry that survives is still read from its directory. -/
theorem Saved.read_of_survives (saved : Saved s home w) {text key : String}
    {entry : StoredPackage} (canonical : Reference.canonical text = .ok key)
    (found : s.index.get? key = some entry)
    (frame : Spared (Guarded home fun _ => False) w w') (survives : Survives s w w' text)
    (read : Runs (readPackage entry.path) w.calm (.ok p) w.calm) :
    Runs (readPackage entry.path) w'.calm (.ok p) w'.calm := by
  obtain ⟨-, entries, listed, opened⟩ := saved.reopens found frame
  obtain ⟨t, v, reopened, loaded⟩ := survives p ((load_iff canonical found).mpr read)
  obtain ⟨same, rfl⟩ := opened.unique reopened
  obtain rfl := Except.ok.inj same
  obtain ⟨_, other, canonical', again⟩ := entry_of_load loaded
  obtain rfl := Except.ok.inj (canonical.symm.trans canonical')
  have twice := (listed key other).mpr (of_get?_indexOf again).1
  rw [found] at twice
  obtain rfl := Option.some.inj twice
  exact (load_iff canonical again).mp loaded

/-- The directory of an entry can be kept. -/
theorem Saved.keepable (saved : Saved s home w) {key : String} {entry : StoredPackage}
    (found : s.index.get? key = some entry) :
    Keepable w home (· = Digest.digits entry.digest) := by
  have placed := saved.placed key entry found
  constructor
  · rintro _ rfl point
    exact (placed.plain _ point).2 rfl
  · rintro _ rfl
    obtain ⟨p, read⟩ := saved.loads key entry found
    exact ⟨p, (placed.readPackage_iff saved.at_home).mp read⟩

/-- An entry of which the directory is kept survives. -/
theorem Saved.survives_of_kept (saved : Saved s home w) {text key : String}
    {entry : StoredPackage} (canonical : Reference.canonical text = .ok key)
    (found : s.index.get? key = some entry)
    (spared : Spared (Guarded home (· = Digest.digits entry.digest)) w w') :
    Survives s w w' text := by
  have placed := saved.placed key entry found
  have frame : Spared (Guarded home fun _ => False) w w' := spared.mono nofun
  refine saved.survives canonical found frame fun p read => ?_
  have lies := ((placed.readPackage_iff saved.at_home).mp read).of_spared spared rfl
  exact (placed.readPackage_iff (saved.reopens found frame).1).mpr lies

/-! ## What survives -/

/-- Whatever fails, the index is spared. -/
theorem Saved.frame {operation : Operation} {error : Error} (saved : Saved s home w)
    (failed : Operates operation.perform s w (.error error) s' w') :
    Spared (Guarded home fun _ => False) w w' :=
  spared_of_failure saved ⟨nofun, nofun⟩ failed fun _ _ _ _ _ => Or.inr id

/-- Under every reference but that of the subject the package survives. -/
theorem Saved.survives_of_ne {operation : Operation} {error : Error} (saved : Saved s home w)
    (failed : Operates operation.perform s w (.error error) s' w') {text : String}
    (other : Reference.canonical text ≠ Reference.canonical operation.subject) :
    Survives s w w' text := by
  intro p loaded
  obtain ⟨key, entry, canonical, found⟩ := entry_of_load loaded
  refine saved.survives_of_kept canonical found ?_ p loaded
  refine spared_of_failure saved (saved.keepable found) failed ?_
  intro change v old prepared replaced
  obtain ⟨subject, -, there⟩ := replaced_of_prepared prepared
  rw [replaced] at there
  by_cases same : Digest.digits old.digest = Digest.digits entry.digest
  · -- the entry stays, and has the digest of the one that is replaced
    refine Or.inl ⟨key, entry, ?_, ?_⟩
    · rw [index_of_prepared prepared fun equal => other (canonical.trans equal.symm), found]
    · rw [(saved.placed key entry found).digest, (saved.placed subject old there.symm).digest,
        same]
  · exact Or.inr same

/-- **Recovery.** When an operation has failed, whatever made its calls fail, every reference
but that of the subject loads its package after the store has been opened again. All of them
do exactly if the operation had replaced no entry, or one of which the digest is still in use
or the directory still holds the package. -/
theorem survives_iff {operation : Operation} {error : Error} (saved : Saved s home w)
    (failed : Operates operation.perform s w (.error error) s' w') :
    (∀ text, Reference.canonical text ≠ Reference.canonical operation.subject →
        Survives s w w' text) ∧
      ((∀ text, Survives s w w' text) ↔
        ∀ change v old, Operates operation.prepare s w (.ok change) s v →
          change.replaced = some old → Used change.index old.digest ∨
            ∀ p, Runs (readPackage old.path) w.calm (.ok p) w.calm →
              Runs (readPackage old.path) w'.calm (.ok p) w'.calm) := by
  refine ⟨fun text other => saved.survives_of_ne failed other, ?_, ?_⟩
  · intro all change v old prepared replaced
    obtain ⟨key, canonical, found⟩ := replaced_of_prepared prepared
    exact Or.inr fun p read => saved.read_of_survives canonical (found.symm.trans replaced)
      (saved.frame failed) (all operation.subject) read
  · intro safe text p loaded
    obtain ⟨key, entry, canonical, found⟩ := entry_of_load loaded
    by_cases other : Reference.canonical text = Reference.canonical operation.subject
    · rcases Operation.failure_cases failed with ⟨early, -⟩ | ⟨change, v, prepared, -, -⟩
      · refine saved.survives_of_kept canonical found ?_ p loaded
        refine spared_of_failure saved (saved.keepable found) failed ?_
        exact fun _ _ _ prepared => nomatch (early.unique prepared).1
      · obtain ⟨subject, named, replaced⟩ := replaced_of_prepared prepared
        obtain rfl := Except.ok.inj (canonical.symm.trans (other.trans named))
        rw [found] at replaced
        rcases safe change v entry prepared replaced with used | still
        · refine saved.survives_of_kept canonical found ?_ p loaded
          refine spared_of_failure saved (saved.keepable found) failed ?_
          intro change' v' old prepared' replaced'
          obtain ⟨same, -, -⟩ := prepared.unique prepared'
          obtain rfl := Except.ok.inj same
          obtain rfl := Option.some.inj (replaced.symm.trans replaced')
          exact Or.inl used
        · exact saved.survives canonical found (saved.frame failed) still p loaded
    · exact saved.survives_of_ne failed other p loaded

namespace Blocked

/-- The package of the entry. -/
def package : Package := { program := ⟨#[112]⟩, config := { info := "x" } }

theorem get?_index (key : String) (found : StoredPackage) :
    store.index.get? key = some found ↔ found ∈ [entry] ∧ found.reference = key := by
  rw [List.mem_singleton]
  by_cases same : key = entry.reference
  · subst same
    have bound : store.index.get? entry.reference = some entry := rfl
    rw [bound, Option.some.injEq]
    constructor
    · rintro rfl
      exact ⟨rfl, rfl⟩
    · exact fun both => both.1.symm
  · have absent : store.index.get? key = none := Dictionary.get?_insert_of_ne _ _ same
    rw [absent]
    refine ⟨nofun, ?_⟩
    rintro ⟨rfl, named⟩
    exact absurd named.symm same

theorem at_home : world.tree.Home world.working store.directory ["s"] :=
  Home.of_isName ⟨by decide, by decide, by decide, by decide⟩ rfl rfl

theorem placed : Placed store.directory entry := by
  have digits : (Digest.digits entry.digest).toList = ['d'] := rfl
  refine ⟨rfl, rfl, by decide, fun c member => ?_⟩
  rw [digits, List.mem_singleton] at member
  subst member
  decide

theorem readPackage_path :
    Runs (readPackage entry.path) world.calm (.ok package) world.calm := by
  refine (placed.readPackage_iff at_home).mpr ⟨rfl, rfl, rfl, _, rfl, ?_⟩
  decide +kernel

theorem filed : Filed world.tree ["s"] [entry] := by
  refine ⟨text.toUTF8, text, rfl, dif_pos text.isValidUTF8, ?_⟩
  decide +kernel

theorem saved : Saved store ["s"] world where
  at_home := at_home
  index := ⟨[entry], get?_index, Or.inr filed⟩
  placed := by
    intro key found bound
    obtain rfl := List.mem_singleton.mp ((get?_index key found).mp bound).1
    exact placed
  loads := by
    intro key found bound
    obtain rfl := List.mem_singleton.mp ((get?_index key found).mp bound).1
    exact ⟨package, readPackage_path⟩

end Blocked

/-- A removal that fails loses the package. -/
theorem recovery_fails : ∃ s home w error s' w' text, Saved s home w ∧
    Operates (Operation.remove text).perform s w (.error error) s' w' ∧
      ¬ Survives s w w' text := by
  refine ⟨_, _, _, _, _, _, _, Blocked.saved, Blocked.operates_remove, fun survives => ?_⟩
  have lost : Runs (readPackage Blocked.entry.path) Blocked.cleared (.error (.io .notFound))
      Blocked.cleared := rfl
  have read := Blocked.saved.read_of_survives rfl rfl
    (Blocked.saved.frame Blocked.operates_remove) survives Blocked.readPackage_path
  exact nomatch (lost.unique read).1

/-- In a store whose index cannot be written, removing the only package fails; what is under
other references survives, and everything does exactly if the directory of the package is not
needed or still holds it. -/
theorem survives_iff_blocked :
    Saved Blocked.store ["s"] Blocked.world ∧
    Operates (Operation.remove "h.io/a:v").perform Blocked.store Blocked.world
      (.error (.io .isDirectory)) Blocked.emptied Blocked.cleared ∧
    (∀ text, Reference.canonical text ≠
          Reference.canonical (Operation.remove "h.io/a:v").subject →
        Survives Blocked.store Blocked.world Blocked.cleared text) ∧
      ((∀ text, Survives Blocked.store Blocked.world Blocked.cleared text) ↔
        ∀ change v old, Operates (Operation.remove "h.io/a:v").prepare Blocked.store Blocked.world
            (.ok change) Blocked.store v →
          change.replaced = some old → Used change.index old.digest ∨
            ∀ p, Runs (readPackage old.path) Blocked.world.calm (.ok p) Blocked.world.calm →
              Runs (readPackage old.path) Blocked.cleared.calm (.ok p) Blocked.cleared.calm) :=
  ⟨Blocked.saved, Blocked.operates_remove, survives_iff Blocked.saved Blocked.operates_remove⟩

end BpfDepot.PackageStore
