import BpfDepot.Proofs.FileTree.Bringing
import BpfDepot.Proofs.PackageStore.Confinement
import BpfDepot.Proofs.PackageStore.Kept
import BpfDepot.Proofs.Reference.Canonical

/-! # What comes into the file of the index

The file of the index comes from the last step of writing the index, which moves the whole
document there or does nothing. Whatever fails or is broken off, the file then holds the
entries that it held before, or those that the handle lists (`PackageStore.refiled_of_align`).
So what holds of all entries that operations bind holds of those in the file
(`PackageStore.Orderly.carryOut`) and of those that are read when the store is opened again
(`PackageStore.orderly_of_openAt`): each is under its own reference, with nothing left out.
-/

namespace BpfDepot

namespace World

variable {ε α β : Type} {w w' : World}

/-- A step does not turn the clock, also when it fails. -/
def Timeless (step : ExceptT ε WorldM α) : Prop :=
  ∀ w result w', Runs step w result w' → w'.clock = w.clock

namespace Timeless

theorem pure (a : α) : Timeless (Pure.pure a : ExceptT ε WorldM α) := by
  intro w result w' runs
  obtain ⟨-, rfl⟩ := (Runs.pure a w).unique runs
  rfl

theorem bind {step : ExceptT ε WorldM α} {next : α → ExceptT ε WorldM β} (first : Timeless step)
    (second : ∀ a, Timeless (next a)) : Timeless (step >>= next) := by
  intro w result w' runs
  rcases Runs.bind_cases runs with ⟨fault, failed, -⟩ | ⟨a, v, done, further⟩
  · exact first _ _ _ failed
  · exact (second a _ _ _ further).trans (first _ _ _ done)

theorem lift {step : WorldM α} (still : ∀ w, (step w).2.clock = w.clock) :
    Timeless (liftM step : ExceptT ε WorldM α) := by
  intro w result w' runs
  have answered : step w = ((step w).1, (step w).2) := rfl
  obtain ⟨-, rfl⟩ := (Runs.lift answered).unique runs
  exact still w

theorem explain {step : ExceptT FileFault WorldM α} (timeless : Timeless step)
    (word : FileFault → Error) : Timeless (Files.explain step word) := by
  intro w result w' runs
  obtain ⟨outcome, stepped, -⟩ := runs.of_explain
  exact timeless _ _ _ stepped

theorem attempt (request : FileCall α) : Timeless (Files.attempt request) := by
  intro w result w' runs
  have called : World.call request w = (result, w') := runs
  have left : w' = (World.call request w).2 := by rw [called]
  rw [left]
  unfold World.call
  split <;> rfl

end Timeless

end World

namespace PackageStore

open FileTree World

-- what the bytes of a package are does not matter here, nor what their digest is
attribute [local irreducible] Package.configBytes Digest.ofBytes

variable {ε α : Type} {home working : Location} {directory key : String} {p : Package}
  {s s' : PackageStore} {w w' : World} {before : FileTree} {entries : List StoredPackage}

/-! ## Steps that bring no index -/

theorem timeless_clear (path : String) : Timeless (clear path) := by
  refine (Timeless.lift fun _ => rfl).bind fun present => ?_
  split
  · exact Timeless.attempt _
  · exact Timeless.pure _

/-- Putting a package in its directory does not turn the clock. -/
theorem timeless_shelve (directory : String) (p : Package) : Timeless (shelve directory p) := by
  have wrote (path : String) : Timeless (writePackage path p) :=
    (timeless_clear _).bind fun _ => (timeless_clear _).bind fun _ =>
      (Timeless.attempt _).bind fun _ => (Timeless.attempt _).bind fun _ =>
        (Timeless.attempt _).bind fun _ => Timeless.attempt _
  refine (Timeless.lift fun w => ?_).bind fun complete => ?_
  · rw [isComplete_eq]
  · split
    · exact (wrote _).explain _
    · exact Timeless.pure _

/-- A step brings no file to the place of the index. -/
abbrev Unfiling (home : Location) (before : FileTree) (working : Location)
    (step : ExceptT ε WorldM α) : Prop :=
  Keeps (fun tree here => here = working ∧ NoNewFile (home ++ [indexName]) before tree) step

theorem unfiling_attempt {request : FileCall α}
    (apart : ∀ t, Apart (· = home ++ [indexName]) t working (brings request)) :
    Unfiling home before working (Files.attempt request) := by
  refine Keeps.attempt ?_ ?_
  · rintro t _ ⟨rfl, old⟩
    exact ⟨rfl, old.call (apart t)⟩
  · rintro t _ steps ⟨rfl, old⟩
    exact ⟨rfl, old.brokenOff steps (apart t)⟩

theorem unfiling_createTree (path : String) :
    Unfiling home before working (Files.attempt (.createTree path)) :=
  unfiling_attempt fun _ => nofun

theorem unfiling_clear (path : String) : Unfiling home before working (clear path) := by
  refine (Keeps.isPresent path).bind fun present => ?_
  split
  · exact unfiling_attempt fun t => nofun
  · exact Keeps.pure _

/-- A path on the shelf does not lead to the index. -/
theorem apart_shelf {folder : String} (plain : Path.IsName folder) (t : FileTree) :
    Apart (· = spot working directory ++ [indexName]) t working
      [Path.join (Path.join directory shelfName) folder] := by
  refine apart_join plain fun p below same => ?_
  subst same
  rw [spot_join isName_shelf, List.append_assoc, List.prefix_append_right_inj] at below
  simp [shelfName, indexName] at below

theorem apart_shelf_file {folder name : String} (plain : Path.IsName folder)
    (named : Path.IsName name) (t : FileTree) :
    Apart (· = spot working directory ++ [indexName]) t working
      [Path.join (Path.join (Path.join directory shelfName) folder) name] := by
  refine apart_join named fun p below same => ?_
  subst same
  rw [spot_join plain, spot_join isName_shelf, List.append_assoc, List.append_assoc,
    List.prefix_append_right_inj] at below
  simp [shelfName, indexName] at below

theorem apart_draft (t : FileTree) :
    Apart (· = spot working directory ++ [indexName]) t working
      [Path.join directory (Path.temporary indexName)] := by
  refine apart_join isName_draft fun p below same => ?_
  subst same
  rw [List.prefix_append_right_inj] at below
  simp [Path.temporary, indexName] at below

/-- Putting a package in its directory brings no index. -/
theorem unfiling_shelve :
    Unfiling (spot working directory) before working (shelve directory p) := by
  have wrote : Unfiling (spot working directory) before working
      (writePackage (packagePath directory p.digest) p) := by
    unfold writePackage
    rw [temporary_packagePath]
    refine (unfiling_clear _).bind fun _ => (unfiling_clear _).bind fun _ =>
      (unfiling_createTree _).bind fun _ => ?_
    exact (unfiling_attempt fun t => apart_shelf_file p.isName_temporary isName_program t).bind
      fun _ => (unfiling_attempt fun t =>
        apart_shelf_file p.isName_temporary isName_config t).bind fun _ =>
          unfiling_attempt fun t =>
            (apart_shelf p.isName_temporary t).pair (apart_shelf p.isName_folder t)
  refine (Keeps.lift fun w => ?_).bind fun complete => ?_
  · rw [isComplete_eq]
    exact ⟨rfl, rfl⟩
  · split
    · exact wrote.explain _
    · exact Keeps.pure _

theorem unfiling_clearUnused (entry : StoredPackage) :
    Unfiling home before working (clearUnused s entry) := by
  unfold clearUnused
  split
  · exact (unfiling_clear _).explain _
  · exact Keeps.pure _

/-! ## Writing the index -/

/-- What the file of the index holds after a run it held before, or it is the list of a handle. -/
def Refiled (home : Location) (s : PackageStore) (w w' : World) : Prop :=
  w'.working = w.working ∧
    ∀ entries, Filed w'.tree home entries → Filed w.tree home entries ∨ entries = s.list

theorem Unfiling.filed {step : ExceptT ε WorldM α} {result : Except ε α}
    (unfiling : Unfiling home w.tree w.working step) (runs : Runs step w result w') :
    w'.working = w.working ∧
      ∀ entries, Filed w'.tree home entries → Filed w.tree home entries := by
  obtain ⟨working, old⟩ := unfiling _ _ _ ⟨rfl, NoNewFile.refl _ _⟩ runs
  exact ⟨working, fun entries ⟨bytes, text, file, held⟩ => ⟨bytes, text, old bytes file, held⟩⟩

/-- A file that has been written holds its bytes. -/
theorem node?_of_write {name : String} (plain : Path.IsName name) {bytes : ByteArray}
    (runs : Runs (Files.attempt (.write (Path.join directory name) bytes)) w (.ok ()) w') :
    w'.tree.node? (spot w.working directory ++ [name]) = some (.file bytes) := by
  obtain ⟨called, -⟩ := Runs.of_attempt_ok runs
  have wrote := changed_eq_ok called
  obtain ⟨place, located⟩ := locate_of_write wrote
  obtain ⟨-, rfl⟩ := (locate_join_iff plain).mp located
  unfold write at wrote
  rw [located, ok_bind] at wrote
  split at wrote
  · cases wrote
  · rw [← Except.ok.inj wrote]
    exact node?_put_self (by simp) _

/-- What has been moved beside its place stands there. -/
theorem node?_of_rename {name target : String} (plain : Path.IsName name)
    (named : Path.IsName target) (other : name ≠ target)
    (runs : Runs (Files.attempt (.rename (Path.join directory name) (Path.join directory target)))
      w (.ok ()) w') :
    w'.tree.node? (spot w.working directory ++ [target]) =
      w.tree.node? (spot w.working directory ++ [name]) := by
  obtain ⟨called, -⟩ := Runs.of_attempt_ok runs
  obtain ⟨old, new, leaving, entering, moved⟩ := of_rename_ok (changed_eq_ok called)
  obtain ⟨-, rfl⟩ := (locate_join_iff plain).mp leaving
  obtain ⟨-, rfl⟩ := (locate_join_iff named).mp entering
  have differ : spot w.working directory ++ [name] ≠ spot w.working directory ++ [target] := by
    simpa using other
  rw [moved differ]
  exact node?_move_self (by simp) (by simp) differ

/-- **Writing the index**, whatever becomes of it, leaves its file as it was or with the entries
of the handle. -/
theorem refiled_of_writeIndex {result : Except Error Unit}
    (storable : ∀ entry ∈ s.list, entry.Storable)
    (runs : Runs (writeIndex s) w result w') : Refiled (spot w.working s.directory) s w w' := by
  have draft (bytes : ByteArray) : Unfiling (spot w.working s.directory) w.tree w.working
      (Files.explain (Files.attempt (.write (Path.temporary (indexPath s.directory)) bytes))
        Error.io) := by
    rw [temporary_indexPath]
    exact (unfiling_attempt fun t => apart_draft t).explain _
  rcases Runs.bind_cases runs with ⟨fault, failed, -⟩ | ⟨_, v, wrote, further⟩
  · obtain ⟨working, old⟩ := Unfiling.filed (draft _) failed
    exact ⟨working, fun entries filed => Or.inl (old entries filed)⟩
  obtain ⟨working, old⟩ := Unfiling.filed (draft _) wrote
  obtain ⟨outcome, renamed, -⟩ := further.of_explain
  cases outcome with
  | error fault =>
      obtain ⟨tree, still⟩ := renamed.of_rename_error
      refine ⟨still.trans working, fun entries filed => Or.inl (old entries ?_)⟩
      rwa [tree] at filed
  | ok _ =>
      refine ⟨(Runs.of_attempt_ok renamed).2.trans working, fun entries filed => Or.inr ?_⟩
      rw [temporary_indexPath] at wrote renamed
      have drafted := node?_of_write isName_draft wrote.of_explain_ok
      have moved := node?_of_rename isName_draft isName_index (by decide) renamed
      rw [working, drafted] at moved
      obtain ⟨bytes, text, file, decoded, parsed⟩ := filed
      rw [moved] at file
      obtain rfl := Node.file.inj (Option.some.inj file)
      obtain rfl := Option.some.inj ((fromUTF8?_toUTF8 _).symm.trans decoded)
      exact (Except.ok.inj ((decodeText_encodeLines storable).symm.trans parsed)).symm

/-- **Aligning** does no more to the file of the index than writing it. -/
theorem refiled_of_align {replaced : Option StoredPackage} {result : Except Error Unit}
    (storable : ∀ entry ∈ s.list, entry.Storable)
    (runs : Runs (align s replaced) w result w') : Refiled (spot w.working s.directory) s w w' := by
  cases replaced with
  | none => exact refiled_of_writeIndex storable runs
  | some old =>
      have clearing : Unfiling (spot w.working s.directory) w.tree w.working (clearUnused s old) :=
        unfiling_clearUnused old
      rcases Runs.bind_cases runs with ⟨fault, failed, -⟩ | ⟨_, v, done, further⟩
      · obtain ⟨working, first⟩ := clearing.filed failed
        exact ⟨working, fun entries filed => Or.inl (first entries filed)⟩
      · obtain ⟨working, first⟩ := clearing.filed done
        obtain ⟨still, last⟩ := refiled_of_writeIndex storable further
        rw [working] at last
        exact ⟨still.trans working,
          fun entries filed => (last entries filed).imp_left (first entries)⟩

/-! ## Entries with a reference of their own -/

/-- The reference of an entry is one with nothing left out, and a document can hold the entry. -/
structure Titled (entry : StoredPackage) : Prop where
  canonical : Reference.canonical entry.reference = .ok entry.reference
  storable : entry.Storable

/-- All entries of an index are titled with their keys. -/
def Titling (index : Dictionary StoredPackage) : Prop :=
  ∀ key entry, index.get? key = some entry → entry.reference = key ∧ Titled entry

theorem Titling.insert {index : Dictionary StoredPackage} {entry : StoredPackage}
    (titling : Titling index) (titled : Titled entry) :
    Titling (index.insert entry.reference entry) := by
  intro key found bound
  by_cases same : key = entry.reference
  · subst same
    rw [Dictionary.get?_insert_self] at bound
    obtain rfl := Option.some.inj bound
    exact ⟨rfl, titled⟩
  · rw [Dictionary.get?_insert_of_ne _ _ same] at bound
    exact titling key found bound

theorem Titling.erase {index : Dictionary StoredPackage} (titling : Titling index)
    (name : String) : Titling (index.erase name) := by
  intro key found bound
  by_cases same : key = name
  · rw [same, Dictionary.get?_erase_self] at bound
    cases bound
  · rw [Dictionary.get?_erase_of_ne _ same] at bound
    exact titling key found bound

/-- A canonical reference is its own canonical reference. -/
theorem canonical_of_canonical {text : String} (canonical : Reference.canonical text = .ok key) :
    Reference.canonical key = .ok key := by
  unfold Reference.canonical at canonical ⊢
  cases read : Reference.parse text with
  | error fault =>
      rw [read] at canonical
      cases canonical
  | ok r =>
      rw [read] at canonical
      obtain rfl := Except.ok.inj canonical
      rw [Reference.parse_full (Reference.isCanonical_of_parse read)]
      rfl

/-- **The invariant of a handle and the file of its index**, whatever calls fail: all entries of
both are titled. -/
structure Orderly (directory : String) (s : PackageStore) (w : World) : Prop where
  place : s.directory = directory
  titling : Titling s.index
  filed : ∀ entries, Filed w.tree (spot w.working directory) entries → ∀ entry ∈ entries,
    Titled entry

namespace Orderly

/-- What is not seen of a world does not matter. -/
theorem of_tree_eq (orderly : Orderly directory s w) (tree : w'.tree = w.tree)
    (working : w'.working = w.working) : Orderly directory s w' := by
  refine ⟨orderly.place, orderly.titling, ?_⟩
  rw [tree, working]
  exact orderly.filed

/-- Steps that bring no index keep the invariant. -/
theorem onward (orderly : Orderly directory s w) {step : ExceptT ε WorldM α} {result : Except ε α}
    (unfiling : Unfiling (spot w.working directory) w.tree w.working step)
    (runs : Runs step w result w') : Orderly directory s w' := by
  obtain ⟨working, old⟩ := unfiling.filed runs
  refine ⟨orderly.place, orderly.titling, fun entries filed => ?_⟩
  rw [working] at filed
  exact orderly.filed entries (old entries filed)

/-- The entry of a package that is put is titled. -/
theorem titled_entryOf {text : String} (canonical : Reference.canonical text = .ok key)
    (small : p.size < 2 ^ 64) {created : Instant} (valid : created.Valid) :
    Titled (entryOf directory key p created) := by
  refine ⟨canonical_of_canonical canonical, ?_, valid⟩
  rwa [Package.size] at small

/-- **Preparing** keeps the invariant, and what is prepared is titled. -/
theorem prepare (orderly : Orderly directory s w) (clock : ∀ i, (w.clock i).Valid)
    {operation : Operation} (small : ∀ p ∈ operation.packages, p.size < 2 ^ 64)
    {result : Except Error Change} (prepared : Operates operation.prepare s w result s' w') :
    Orderly directory s w' ∧ ∀ change, result = .ok change → Titling change.index := by
  cases operation with
  | put text p =>
      obtain ⟨outcome, made, rfl⟩ :=
        Operation.of_binding (fun _ _ _ _ _ made => (newEntry_cases made).1) prepared
      rcases (newEntry_cases made).2 with
        ⟨error, rfl, rfl⟩ | ⟨key, shelved, v, canonical, runs, tree, same, rfl⟩
      · exact ⟨orderly, nofun⟩
      · have shelving := runs
        rw [orderly.place] at shelving
        refine ⟨(orderly.onward unfiling_shelve shelving).of_tree_eq tree same, ?_⟩
        cases shelved with
        | error error => exact nofun
        | ok _ =>
            rintro _ ⟨⟩
            have valid : (v.clock v.readings).Valid := by
              rw [timeless_shelve _ _ _ _ _ runs]
              exact clock _
            exact orderly.titling.insert
              (titled_entryOf canonical (small p List.mem_cons_self) valid)
  | tag source target =>
      obtain ⟨outcome, made, rfl⟩ :=
        Operation.of_binding (fun _ _ _ _ _ made => (copyEntry_cases made).1) prepared
      obtain ⟨-, tree, working, -⟩ := copyEntry_cases made
      refine ⟨orderly.of_tree_eq tree working, ?_⟩
      cases found : s.get? source with
      | none =>
          obtain ⟨rfl, -, -⟩ := (operates_copyEntry_of_missing target found).unique made
          exact nofun
      | some original =>
          cases canonical : Reference.canonical target with
          | error fault =>
              obtain ⟨rfl, -, -⟩ := (operates_copyEntry_of_error found canonical).unique made
              exact nofun
          | ok key =>
              obtain ⟨rfl, -, -⟩ := (operates_copyEntry found canonical).unique made
              rintro _ ⟨⟩
              obtain ⟨name, bound⟩ := index_of_get? found
              exact orderly.titling.insert ⟨canonical_of_canonical canonical,
                (orderly.titling name original bound).2.storable.size, clock _⟩
  | remove text =>
      obtain ⟨rfl, outcome⟩ := Operation.prepare_remove_cases prepared
      refine ⟨orderly, fun change same => ?_⟩
      obtain ⟨key, entry, -, -, rfl⟩ := outcome change same
      exact orderly.titling.erase key

/-- **Committing** keeps the invariant, whatever becomes of it. -/
theorem commit (orderly : Orderly directory s w) {index : Dictionary StoredPackage}
    (titling : Titling index) {replaced : Option StoredPackage} {result : Except Error Unit}
    (committed : Operates (commit index replaced) s w result s' w') :
    Orderly directory s' w' := by
  obtain ⟨rfl, aligned⟩ := align_of_commit committed
  have titled (entry : StoredPackage) (member : entry ∈ ({ s with index } : PackageStore).list) :
      Titled entry := by
    obtain ⟨key, bound⟩ := mem_list_iff.mp member
    exact (titling key entry bound).2
  obtain ⟨working, refiled⟩ :=
    refiled_of_align (fun entry member => (titled entry member).storable) aligned
  refine ⟨orderly.place, titling, fun entries filed entry member => ?_⟩
  rw [working] at filed
  rw [orderly.place] at refiled
  rcases refiled entries filed with before | rfl
  · exact orderly.filed entries before entry member
  · exact titled entry member

/-- **Operations** keep the invariant, whatever becomes of them. -/
theorem carryOut (orderly : Orderly directory s w) (clock : ∀ i, (w.clock i).Valid)
    {operation : Operation} (small : ∀ p ∈ operation.packages, p.size < 2 ^ 64)
    {result : Except Error (Option StoredPackage)}
    (carried : Operates operation.carryOut s w result s' w') : Orderly directory s' w' := by
  rw [Operation.carryOut_eq] at carried
  rcases Operates.bind_cases carried with ⟨error, early, -⟩ | ⟨change, t, v, prepared, late⟩
  · obtain rfl := operation.steady_prepare _ _ _ _ _ early
    exact (orderly.prepare clock small early).1
  · obtain rfl := operation.steady_prepare _ _ _ _ _ prepared
    obtain ⟨between, titling⟩ := orderly.prepare clock small prepared
    rcases Operates.bind_cases late with ⟨error, broken, -⟩ | ⟨_, t', u, done, last⟩
    · exact between.commit (titling change rfl) broken
    · have after := between.commit (titling change rfl) done
      obtain ⟨events, told⟩ := operation.operates_tell change.bound u
      have given := (told _).rest last
      obtain ⟨-, rfl, rfl⟩ := (Operates.pure _ _ _).unique given
      exact after.of_tree_eq rfl rfl

end Orderly

/-! ## Opening the store -/

/-- The entries that are kept of a list are in it. -/
theorem mem_of_filterM {asked : StoredPackage → Bool}
    {test : StoredPackage → ExceptT Error WorldM Bool}
    (told : ∀ entry, Runs (test entry) w (.ok (asked entry)) w) {kept : List StoredPackage}
    (filtered : Runs (entries.filterM test) w (.ok kept) w') {entry : StoredPackage}
    (member : entry ∈ kept) : entry ∈ entries := by
  obtain ⟨same, -⟩ := (runs_filterM told entries).unique filtered
  rw [Except.ok.inj same] at member
  exact List.mem_of_mem_filter member

/-- A text that is read is in the file. -/
theorem text_of_readText {name text : String} (plain : Path.IsName name)
    (read : Runs (Files.readText (Path.join directory name)) w (.ok text) w') :
    ∃ bytes, w.tree.node? (spot w.working directory ++ [name]) = some (.file bytes) ∧
      String.fromUTF8? bytes = some text := by
  obtain ⟨bytes, v, called, further⟩ := Runs.of_bind_ok read
  have held := congrArg Prod.snd (Runs.of_attempt_ok called).1
  refine ⟨bytes, ((read_join_iff plain).mp held).2, ?_⟩
  split at further
  · next decoded =>
    obtain ⟨same, -⟩ := (Runs.pure _ _).unique further
    rw [decoded, Except.ok.inj same]
  · exact nomatch ((Runs.throw _ _).unique further).1

/-- What is read as the index is in its file. -/
theorem filed_of_readIndex {index : Dictionary StoredPackage}
    (read : Runs (readIndex directory) w (.ok index) w') {entry : StoredPackage}
    (found : index.get? key = some entry) :
    entry.reference = key ∧ ∃ entries, Filed w.tree (spot w.working directory) entries ∧
      entry ∈ entries := by
  have further := (Runs.lift (isPresent_eq _ w)).rest read
  split at further
  · obtain ⟨text, v, texts, parsed⟩ := Runs.of_bind_ok further
    obtain ⟨bytes, file, decoded⟩ := text_of_readText isName_index texts.of_explain_ok
    split at parsed
    · exact nomatch ((Runs.throw _ _).unique parsed).1
    · next entries given =>
      obtain ⟨kept, u, filtered, last⟩ := Runs.of_bind_ok parsed
      obtain ⟨same, -⟩ := (Runs.pure _ _).unique last
      obtain rfl := Except.ok.inj same
      obtain ⟨other, listed, same⟩ := List.mem_map.mp (Dictionary.mem_of_get?_ofList found)
      obtain ⟨rfl, rfl⟩ := Prod.mk.inj same
      exact ⟨rfl, entries, ⟨bytes, text, file, decoded, given⟩,
        mem_of_filterM (fun entry => Runs.lift (isPresent_eq _ v)) filtered listed⟩
  · obtain ⟨same, -⟩ := (Runs.pure _ _).unique further
    obtain rfl := Except.ok.inj same
    cases found

/-- Opening a store, whatever becomes of it, brings nothing to the file of the index. -/
theorem unfiling_openAt : Unfiling (spot working directory) before working (openAt directory) :=
  ((unfiling_createTree _).explain _).bind fun _ =>
    (keeps_readIndex directory).bind fun _ => Keeps.pure _

/-- **Opening.** A store that is opened has the entries of its file. -/
theorem orderly_of_openAt (filed : ∀ entries, Filed w.tree (spot w.working directory) entries →
      ∀ entry ∈ entries, Titled entry)
    (opened : Runs (openAt directory) w (.ok s) w') : Orderly directory s w' := by
  obtain ⟨working, old⟩ := unfiling_openAt.filed opened
  obtain ⟨_, v, made, further⟩ := Runs.of_bind_ok opened
  obtain ⟨index, u, read, last⟩ := Runs.of_bind_ok further
  obtain ⟨same, -⟩ := (Runs.pure (PackageStore.mk directory index) u).unique last
  obtain rfl := Except.ok.inj same
  have making : Unfiling (spot w.working directory) w.tree w.working
      (Files.explain (Files.attempt (.createTree directory)) fun fault =>
        .store ("Failed to create package store directory " ++ directory ++ ": " ++
          fault.message)) := (unfiling_createTree _).explain _
  obtain ⟨between, early⟩ := making.filed made
  refine ⟨rfl, fun key entry found => ?_, fun entries there => ?_⟩
  · obtain ⟨reference, entries, there, member⟩ := filed_of_readIndex read found
    rw [between] at there
    exact ⟨reference, filed entries (early entries there) entry member⟩
  · rw [working] at there
    exact filed entries (old entries there)

end PackageStore

end BpfDepot
