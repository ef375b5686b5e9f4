import BpfDepot.Proofs.PackageStore.Effects
import BpfDepot.Proofs.PackageStore.Recovery

/-! # What is loaded after a package has been put

A store takes a directory that has both files of a package for the package, whatever the files
hold, and otherwise writes the package anew (`PackageStore.lies_of_shelve_iff`). Then it removes
the directory of the entry that is replaced, wherever the entry says it is
(`PackageStore.lies_of_align_iff`). So a package that has been put is loaded exactly if neither of
the two does harm (`PackageStore.load_of_put_iff`), and the first one can
(`PackageStore.put_trusts`).
-/

namespace BpfDepot.PackageStore

open FileTree World

-- what the bytes of a package are does not matter here, nor what their digest is
attribute [local irreducible] Package.configBytes Digest.ofBytes

variable {directory folder name text key : String} {home : Location} {w w' : World} {p q : Package}
  {s s' : PackageStore}

/-! ## Steps that succeed -/

/-- A path that has been cleared led to nothing, or to a directory that is gone. -/
theorem of_clear_ok {path : String} (cleared : Runs (clear path) w (.ok ()) w') :
    w'.working = w.working ∧
      (w.tree.kind? w.working path = none ∧ w'.tree = w.tree ∨
        ∃ place, w.tree.locate w.working path = .ok place ∧
          w.tree.node? place = some .directory ∧
          ∀ q, q ≠ [] → w'.tree.node? q = if place <+: q then none else w.tree.node? q) := by
  have further := (Runs.lift (isPresent_eq path w)).rest cleared
  cases kind : w.tree.kind? w.working path with
  | none =>
      rw [kind] at further
      obtain ⟨-, rfl⟩ := (Runs.pure () w).unique further
      exact ⟨rfl, Or.inl ⟨rfl, rfl⟩⟩
  | some kind' =>
      rw [kind] at further
      obtain ⟨called, working⟩ := Runs.of_attempt_ok further
      have removed := changed_eq_ok called
      obtain ⟨place, located, node⟩ := removeTree_isOk_iff.mp ⟨_, removed⟩
      exact ⟨working, Or.inr ⟨place, located, node, fun q rooted =>
        node?_of_removeTree located removed rooted⟩⟩

/-- When a directory on the shelf has been cleared nothing stands there and below. -/
theorem pruned_of_clear (at_home : w.tree.Home w.working directory home)
    (grounded : w.tree.Grounded) (plain : Path.IsName folder)
    (cleared : Runs (clear (Path.join (Path.join directory shelfName) folder)) w (.ok ()) w') :
    w'.working = w.working ∧ Pruned w.tree w'.tree (home ++ [shelfName] ++ [folder]) := by
  obtain ⟨working, ⟨missing, same⟩ | ⟨place, located, -, pruned⟩⟩ := of_clear_ok cleared
  · refine ⟨working, fun q => ?_⟩
    rw [same]
    split
    · next below =>
      obtain ⟨rest, rfl⟩ := below
      by_cases around : w.tree.node? (home ++ [shelfName]) = some .directory
      · rw [kind?_join (at_home.join isName_shelf around) plain, Option.map_eq_none_iff] at missing
        exact grounded.node?_append missing rest
      · exact grounded _ around _ (by simp) (by simp)
    · rfl
  · obtain ⟨-, rfl⟩ := (locate_join_iff plain).mp located
    rw [spot_join isName_shelf, at_home.ends] at pruned
    refine ⟨working, fun q => ?_⟩
    by_cases rooted : q = []
    · subst rooted
      rw [if_neg (by simp), node?_root, node?_root]
    · exact pruned q rooted

/-- When a directory has been made on the shelf the shelf is there with it, and has what it
had. -/
theorem of_createTree_join_ok {t made : FileTree} {working : Location}
    (at_home : t.Home working directory home) (plain : Path.IsName folder)
    (created : t.createTree working (Path.join (Path.join directory shelfName) folder) =
      (made, .ok ())) :
    made.Home working directory home ∧
      made.node? (home ++ [shelfName]) = some .directory ∧
      made.node? (home ++ [shelfName] ++ [folder]) = some .directory ∧
      ∀ q, home ++ [shelfName] <+: q → q ≠ home ++ [shelfName] →
        q ≠ home ++ [shelfName] ++ [folder] → made.node? q = t.node? q := by
  have standing : t.node? (start working (Path.join (Path.join directory shelfName) folder)) =
      some .directory := by
    rw [start_join plain, start_join isName_shelf]
    exact at_home.reached _ (mem_route_self _ _)
  obtain ⟨reached, same⟩ := of_createTree_ok standing created
  rw [reached_join_iff plain, reached_join_iff isName_shelf, spot_join isName_shelf,
    at_home.ends] at reached
  obtain ⟨⟨way, shelf⟩, node⟩ := reached
  refine ⟨⟨way, at_home.ends, at_home.apart⟩, shelf, node, fun q below other further => same q ?_⟩
  have ends : goal (start working directory) (Path.names directory) = home := at_home.ends
  rw [start_join plain, start_join isName_shelf, Path.names_join plain,
    Path.names_join isName_shelf, mem_route_append, mem_route_append, goal_append, ends]
  simp only [goal, List.foldl_cons, List.foldl_nil, step_of_isName isName_shelf,
    step_of_isName plain]
  rintro ((member | rfl) | rfl)
  · exact not_below_of_outside (at_home.apart q member) (by simp) below
  · exact other rfl
  · exact further rfl

/-- A file that has been written is where it should be, and nothing else has changed. -/
theorem of_write_ok {bytes : ByteArray} (at_home : w.tree.Home w.working directory home)
    (plain : Path.IsName name)
    (wrote : Runs (Files.attempt (.write (Path.join directory name) bytes)) w (.ok ()) w') :
    w'.working = w.working ∧ w'.tree = w.tree.put (home ++ [name]) (.file bytes) := by
  obtain ⟨called, working⟩ := Runs.of_attempt_ok wrote
  exact ⟨working, ((write_join_iff at_home plain).mp (changed_eq_ok called)).2⟩

/-- Changes on the shelf leave the directory of the store where it is. -/
theorem home_of_shelf {t changed : FileTree} {working : Location}
    (at_home : t.Home working directory home)
    (same : ∀ q, ¬ home ++ [shelfName] <+: q → changed.node? q = t.node? q) :
    changed.Home working directory home :=
  at_home.congr fun q outside => same q (not_below_of_outside outside (List.cons_ne_nil _ _))

theorem home_of_pruned {t pruned : FileTree} {working : Location}
    (at_home : t.Home working directory home)
    (gone : Pruned t pruned (home ++ [shelfName] ++ [folder])) :
    pruned.Home working directory home :=
  home_of_shelf at_home fun q outside => by
    rw [gone, if_neg fun below => outside ((List.prefix_append _ _).trans below)]

/-- A package that has been written beside its directory is there, and everything else on the
shelf is as it was. -/
theorem of_draft_ok {w₁ w₂ : World} (at_home : w.tree.Home w.working directory home)
    (created : Runs (Files.attempt (.createTree (Path.join (Path.join directory shelfName)
      (Path.temporary p.folder)))) w (.ok ()) w₁)
    (first : Runs (Files.attempt (.write (Path.join (Path.join (Path.join directory shelfName)
      (Path.temporary p.folder)) Package.programName) p.program)) w₁ (.ok ()) w₂)
    (second : Runs (Files.attempt (.write (Path.join (Path.join (Path.join directory shelfName)
      (Path.temporary p.folder)) Configuration.fileName) p.configBytes)) w₂ (.ok ()) w') :
    w'.tree.Home w'.working directory home ∧ Lies w'.tree home (Path.temporary p.folder) p ∧
      w'.tree.node? (home ++ [shelfName] ++ [Path.temporary p.folder] ++ [Configuration.fileName]) =
        some (.file p.configBytes) ∧
      ∀ q, home ++ [shelfName] <+: q → q ≠ home ++ [shelfName] →
        ¬ home ++ [shelfName] ++ [Path.temporary p.folder] <+: q →
          w'.tree.node? q = w.tree.node? q := by
  have differ : Configuration.fileName ≠ Package.programName := by decide
  obtain ⟨called, working₁⟩ := Runs.of_attempt_ok created
  obtain ⟨home₁, shelf, draft, same⟩ := of_createTree_join_ok at_home p.isName_temporary called
  have at_draft := (home₁.join isName_shelf shelf).join p.isName_temporary draft
  rw [← working₁] at at_draft
  obtain ⟨working₂, tree₂⟩ := of_write_ok at_draft isName_program first
  have still := at_draft.put Package.programName (.file p.program)
  rw [← tree₂, ← working₂] at still
  obtain ⟨working, tree⟩ := of_write_ok still isName_config second
  have nodes (q : Location) : w'.tree.node? q =
      if q = home ++ [shelfName] ++ [Path.temporary p.folder] ++ [Configuration.fileName] then
        some (.file p.configBytes)
      else if q = home ++ [shelfName] ++ [Path.temporary p.folder] ++ [Package.programName] then
        some (.file p.program)
      else w₁.tree.node? q := by
    rw [tree, node?_put (by simp), tree₂, node?_put (by simp)]
  have elsewhere (q : Location)
      (away : ¬ home ++ [shelfName] ++ [Path.temporary p.folder] <+: q) :
      w'.tree.node? q = w₁.tree.node? q := by
    rw [nodes, if_neg (by rintro rfl; exact away (List.prefix_append _ _)),
      if_neg (by rintro rfl; exact away (List.prefix_append _ _))]
  have config : w'.tree.node? (home ++ [shelfName] ++ [Path.temporary p.folder] ++
      [Configuration.fileName]) = some (.file p.configBytes) := by rw [nodes, if_pos rfl]
  refine ⟨?_, ⟨?_, ?_, ?_, p.configBytes, config, p.decode_configBytes⟩, config, ?_⟩
  · rw [working, working₂, working₁]
    exact home_of_shelf home₁ fun q outside => elsewhere q fun below =>
      outside ((List.prefix_append _ _).trans below)
  · rw [elsewhere _ fun below => absurd below.length_le (by simp), shelf]
  · rw [nodes, if_neg (by simp), if_neg (by simp), draft]
  · rw [nodes, if_neg (by simp [differ.symm]), if_pos rfl]
  · intro q below other away
    rw [elsewhere q away, same q below other (by rintro rfl; exact away List.prefix_rfl)]

/-- A directory that has been moved to a place on the shelf where nothing stood has there what
it had. -/
theorem of_install_ok (at_home : w.tree.Home w.working directory home)
    (lies : Lies w.tree home (Path.temporary p.folder) q)
    (empty : ∀ rest, w.tree.node? (home ++ [shelfName] ++ [p.folder] ++ rest) = none)
    (moved : Runs (Files.attempt (.rename (Path.join (Path.join directory shelfName)
      (Path.temporary p.folder)) (packagePath directory p.digest))) w (.ok ()) w') :
    w'.tree.Home w'.working directory home ∧ Lies w'.tree home p.folder q ∧
      ∀ name, w'.tree.node? (home ++ [shelfName] ++ [p.folder] ++ [name]) =
        w.tree.node? (home ++ [shelfName] ++ [Path.temporary p.folder] ++ [name]) := by
  have apart : Path.temporary p.folder ≠ p.folder := (p.folder_ne_temporary _).symm
  obtain ⟨tree, renamed, came, -, kept⟩ :=
    rename_beside (at_home.join isName_shelf lies.shelf) p.isName_temporary p.isName_folder apart
      (by rw [lies.place]; exact Option.some_ne_none _)
      (Or.inl (by simpa using empty [])) (by rintro _ ⟨rest, rfl⟩ -; exact empty rest)
  obtain ⟨called, working⟩ := Runs.of_attempt_ok moved
  obtain rfl := Except.ok.inj (renamed.symm.trans (changed_eq_ok called))
  have inside (name : String) : w'.tree.node? (home ++ [shelfName] ++ [p.folder] ++ [name]) =
      w.tree.node? (home ++ [shelfName] ++ [Path.temporary p.folder] ++ [name]) := by
    simpa using came [name]
  obtain ⟨bytes, config, decoded⟩ := lies.config
  refine ⟨?_, ⟨?_, (came []).trans lies.place, (inside _).trans lies.program, bytes,
    (inside _).trans config, decoded⟩, inside⟩
  · rw [working]
    refine home_of_shelf at_home fun q outside => kept q ?_ ?_
    all_goals exact fun below => outside ((List.prefix_append _ _).trans below)
  · rw [kept _ (by simp) (by simp), lies.shelf]

/-- **Writing.** A package that has been written lies in its directory, whatever was there, and
one of its files is the document of its configuration. -/
theorem lies_of_writePackage (at_home : w.tree.Home w.working directory home)
    (grounded : w.tree.Grounded)
    (wrote : Runs (writePackage (packagePath directory p.digest) p) w (.ok ()) w') :
    w'.tree.Home w'.working directory home ∧ Lies w'.tree home p.folder p ∧
      w'.tree.node? (home ++ [shelfName] ++ [p.folder] ++ [Configuration.fileName]) =
        some (.file p.configBytes) := by
  unfold writePackage at wrote
  rw [temporary_packagePath] at wrote
  obtain ⟨_, w₁, drained, wrote⟩ := Runs.of_bind_ok wrote
  obtain ⟨_, w₂, cleared, wrote⟩ := Runs.of_bind_ok wrote
  obtain ⟨_, w₃, created, wrote⟩ := Runs.of_bind_ok wrote
  obtain ⟨_, w₄, first, wrote⟩ := Runs.of_bind_ok wrote
  obtain ⟨_, w₅, second, moved⟩ := Runs.of_bind_ok wrote
  obtain ⟨working₁, gone₁⟩ := pruned_of_clear at_home grounded p.isName_temporary drained
  have home₁ := home_of_pruned at_home gone₁
  rw [← working₁] at home₁
  obtain ⟨working₂, gone₂⟩ := pruned_of_clear home₁ (grounded.pruned gone₁) p.isName_folder cleared
  have home₂ := home_of_pruned home₁ gone₂
  rw [← working₂] at home₂
  obtain ⟨home₅, lies, config, same⟩ := of_draft_ok home₂ created first second
  have empty (rest : Location) :
      w₅.tree.node? (home ++ [shelfName] ++ [p.folder] ++ rest) = none := by
    have apart := (p.folder_ne_temporary p.folder).symm
    rw [same _ (by simp) (by simp) (by simpa using apart), gone₂, if_pos (List.prefix_append _ _)]
  obtain ⟨at_home', installed, inside⟩ := of_install_ok home₅ lies empty moved
  exact ⟨at_home', installed, (inside _).trans config⟩

/-! ## What is taken for the package -/

/-- If a directory has both files of a package, then they are those of the package whose
directory it is. -/
def Genuine (directory : String) (p : Package) (w : World) : Prop :=
  (isComplete (packagePath directory p.digest) : WorldM Bool) w = (true, w) →
    Runs (readPackage (packagePath directory p.digest)) w.calm (.ok p) w.calm

theorem readPackage_calm_iff (at_home : w.tree.Home w.working directory home) :
    Runs (readPackage (packagePath directory p.digest)) w.calm (.ok q) w.calm ↔
      Lies w.tree home p.folder q :=
  readPackage_iff_lies (w := w.calm) at_home (quiet_calm w) p.isName_folder

/-- **Shelving.** A package that has been shelved lies in its directory exactly if what was taken
for it there was the package. -/
theorem lies_of_shelve_iff (at_home : w.tree.Home w.working directory home)
    (grounded : w.tree.Grounded) (shelved : Runs (shelve directory p) w (.ok ()) w') :
    w'.tree.Home w'.working directory home ∧
      (Lies w'.tree home p.folder p ↔ Genuine directory p w) := by
  obtain ⟨complete, looked⟩ : ∃ complete,
      (isComplete (packagePath directory p.digest) : WorldM Bool) w = (complete, w) :=
    ⟨_, isComplete_eq _ w⟩
  have further := (Runs.lift looked).rest shelved
  unfold Genuine
  rw [looked]
  cases complete with
  | true =>
      obtain ⟨-, rfl⟩ := (Runs.pure () w).unique further
      exact ⟨at_home, by rw [readPackage_calm_iff at_home, forall_prop_of_true rfl]⟩
  | false =>
      obtain ⟨at_home', lies, -⟩ :=
        lies_of_writePackage at_home grounded (Runs.of_explain_ok further)
      exact ⟨at_home', iff_of_true lies nofun⟩

/-! ## What is removed -/

/-- Removing the directory of an entry that is not used leaves a package on the shelf alone: the
path of the entry does not lead to a directory that the package is in. -/
def Harmless (w : World) (index : Dictionary StoredPackage) (home : Location) (folder : String)
    (old : StoredPackage) : Prop :=
  Used index old.digest ∨ ∀ place, w.tree.locate w.working old.path = .ok place →
    w.tree.node? place = some .directory → ¬ place <+: home ++ [shelfName] ++ [folder]

/-- What lies on the shelf when a directory has been removed lay there before, not in the
directory. -/
theorem lies_of_removed_iff {t removed : FileTree} {place : Location}
    (node : t.node? place = some .directory)
    (gone : ∀ q, q ≠ [] → removed.node? q = if place <+: q then none else t.node? q) :
    Lies removed home folder p ↔
      Lies t home folder p ∧ ¬ place <+: home ++ [shelfName] ++ [folder] := by
  constructor
  · intro lies
    have before {q : Location} (rooted : q ≠ []) {found : Node}
        (there : removed.node? q = some found) : t.node? q = some found ∧ ¬ place <+: q := by
      rw [gone q rooted] at there
      split at there
      · cases there
      · next outside => exact ⟨there, outside⟩
    obtain ⟨bytes, config, decoded⟩ := lies.config
    exact ⟨⟨(before (by simp) lies.shelf).1, (before (by simp) lies.place).1,
      (before (by simp) lies.program).1, bytes, (before (by simp) config).1, decoded⟩,
      (before (by simp) lies.place).2⟩
  · rintro ⟨lies, outside⟩
    have file {name : String} {bytes : ByteArray}
        (there : t.node? (home ++ [shelfName] ++ [folder] ++ [name]) = some (.file bytes)) :
        removed.node? (home ++ [shelfName] ++ [folder] ++ [name]) = some (.file bytes) := by
      rw [gone _ (by simp), if_neg, there]
      intro below
      rcases List.prefix_concat_iff.mp below with same | inside
      · rw [same, there] at node
        cases node
      · exact outside inside
    obtain ⟨bytes, config, decoded⟩ := lies.config
    refine ⟨?_, ?_, file lies.program, bytes, file config, decoded⟩
    · rw [gone _ (by simp), if_neg fun below => outside (below.trans (List.prefix_append _ _)),
        lies.shelf]
    · rw [gone _ (by simp), if_neg outside, lies.place]

/-- **Clearing.** What lies on the shelf when the directory of an entry has been removed lay there
before, and removing the directory was harmless. -/
theorem lies_of_clearUnused_iff {old : StoredPackage}
    (cleared : Runs (clearUnused s old) w (.ok ()) w') :
    w'.working = w.working ∧ (Lies w'.tree home folder p ↔
      Lies w.tree home folder p ∧ Harmless w s.index home folder old) := by
  unfold clearUnused at cleared
  by_cases used : Used s.index old.digest
  · rw [any_digest_iff.mpr used] at cleared
    obtain ⟨-, rfl⟩ := (Runs.pure () w).unique cleared
    exact ⟨rfl, (and_iff_left (Or.inl used)).symm⟩
  · rw [Bool.eq_false_iff.mpr fun any => used (any_digest_iff.mp any)] at cleared
    unfold Harmless
    rw [or_iff_right used]
    obtain ⟨working, ⟨missing, same⟩ | ⟨place, located, node, gone⟩⟩ :=
      of_clear_ok (Runs.of_explain_ok cleared)
    · refine ⟨working, ?_⟩
      rw [same]
      refine (and_iff_left fun place located node => ?_).symm
      -- a directory would have been found
      unfold kind? at missing
      rw [located] at missing
      dsimp only at missing
      rw [node] at missing
      cases missing
    · refine ⟨working, (lies_of_removed_iff node gone).trans (and_congr_right fun _ => ?_)⟩
      rw [located]
      constructor
      · rintro outside _ ⟨⟩ -
        exact outside
      · exact fun all => all place rfl node

/-! ## What is written -/

/-- **Writing the index** leaves what is on the shelf alone, and shows that the directory of the
store is there. -/
theorem of_writeIndex_ok (ends : spot w.working s.directory = home)
    (apart : ∀ p ∈ route (start w.working s.directory) (Path.names s.directory),
      home <+: p → p = home) (wrote : Runs (writeIndex s) w (.ok ()) w') :
    w'.tree.Home w'.working s.directory home ∧
      ∀ q, home ++ [shelfName] <+: q → w'.tree.node? q = w.tree.node? q := by
  unfold writeIndex at wrote
  simp only [temporary_indexPath] at wrote
  obtain ⟨_, v, drafted, wrote⟩ := Runs.of_bind_ok wrote
  obtain ⟨first, working₁⟩ := Runs.of_attempt_ok drafted.of_explain_ok
  obtain ⟨second, working⟩ := Runs.of_attempt_ok wrote.of_explain_ok
  have at_home : w.tree.Home w.working s.directory home := by
    refine ⟨?_, ends, apart⟩
    obtain ⟨place, located⟩ := locate_of_write (changed_eq_ok first)
    exact ((locate_join_iff isName_draft).mp located).1
  -- both calls are about names in the directory of the store that are not that of the shelf
  let safe (q : Location) : Prop :=
    ¬ home ++ [Path.temporary indexName] <+: q ∧ ¬ home ++ [indexName] <+: q
  have draft (t : FileTree) :
      Apart safe t w.working [Path.join s.directory (Path.temporary indexName)] :=
    apart_join isName_draft fun q below kept => kept.1 (ends ▸ below)
  have index (t : FileTree) : Apart safe t w.working [Path.join s.directory indexName] :=
    apart_join isName_index fun q below kept => kept.2 (ends ▸ below)
  have same (q : Location) (kept : safe q) : w'.tree.node? q = w.tree.node? q := by
    have moved := node?_rename ((draft v.tree).pair (index v.tree)) kept
    have written := node?_write (indexCodec.encodeLines s.list).toUTF8 (draft w.tree) kept
    have after : (v.tree.changed (v.tree.rename w.working (Path.join s.directory
        (Path.temporary indexName)) (Path.join s.directory indexName))).1 = w'.tree := by
      rw [← working₁]
      exact congrArg Prod.fst second
    have before : (w.tree.changed (w.tree.write w.working (Path.join s.directory
        (Path.temporary indexName)) (indexCodec.encodeLines s.list).toUTF8)).1 = v.tree :=
      congrArg Prod.fst first
    rw [after] at moved
    rw [moved, ← before, written]
  refine ⟨?_, fun q below => same q ?_⟩
  · rw [working, working₁]
    refine at_home.congr fun q outside => same q ⟨?_, ?_⟩
    all_goals exact not_below_of_outside outside (List.cons_ne_nil _ _)
  · obtain ⟨rest, rfl⟩ := below
    have names : shelfName ≠ indexName ∧ shelfName ≠ Path.temporary indexName := by decide
    exact ⟨by simpa using names.2.symm, by simpa using names.1.symm⟩

theorem lies_congr {t changed : FileTree}
    (same : ∀ q, home ++ [shelfName] <+: q → changed.node? q = t.node? q) :
    Lies changed home folder p ↔ Lies t home folder p := by
  have inside (rest : Location) : changed.node? (home ++ [shelfName] ++ [folder] ++ rest) =
      t.node? (home ++ [shelfName] ++ [folder] ++ rest) :=
    same _ (by simp only [List.append_assoc, List.prefix_append_right_inj, List.prefix_append])
  have folder_same : changed.node? (home ++ [shelfName] ++ [folder]) =
      t.node? (home ++ [shelfName] ++ [folder]) := same _ (List.prefix_append _ _)
  constructor
  · intro lies
    obtain ⟨bytes, config, decoded⟩ := lies.config
    exact ⟨(same _ List.prefix_rfl).symm.trans lies.shelf, folder_same.symm.trans lies.place,
      (inside _).symm.trans lies.program, bytes, (inside _).symm.trans config, decoded⟩
  · intro lies
    obtain ⟨bytes, config, decoded⟩ := lies.config
    exact ⟨(same _ List.prefix_rfl).trans lies.shelf, folder_same.trans lies.place,
      (inside _).trans lies.program, bytes, (inside _).trans config, decoded⟩

/-- **Aligning.** What lies on the shelf when the directory has been brought into line lay there
before, and the entry that is replaced was removed without harm. -/
theorem lies_of_align_iff (folder : String) (at_home : w.tree.Home w.working s.directory home)
    {replaced : Option StoredPackage} (aligned : Runs (align s replaced) w (.ok ()) w') :
    w'.tree.Home w'.working s.directory home ∧
      (Lies w'.tree home folder p ↔ Lies w.tree home folder p ∧
        ∀ old, replaced = some old → Harmless w s.index home folder old) := by
  have written {v : World} (working : v.working = w.working)
      (wrote : Runs (writeIndex s) v (.ok ()) w') :
      w'.tree.Home w'.working s.directory home ∧
        (Lies w'.tree home folder p ↔ Lies v.tree home folder p) := by
    have ends : spot v.working s.directory = home := by rw [working, at_home.ends]
    have apart := at_home.apart
    rw [← working] at apart
    obtain ⟨at_home', same⟩ := of_writeIndex_ok ends apart wrote
    exact ⟨at_home', lies_congr same⟩
  cases replaced with
  | none =>
      obtain ⟨at_home', iff⟩ := written rfl aligned
      exact ⟨at_home', iff.trans (and_iff_left nofun).symm⟩
  | some old =>
      obtain ⟨_, v, cleared, wrote⟩ := Runs.of_bind_ok aligned
      obtain ⟨working, removed⟩ := lies_of_clearUnused_iff cleared
      obtain ⟨at_home', iff⟩ := written working wrote
      refine ⟨at_home', (iff.trans removed).trans (and_congr_right fun _ => ?_)⟩
      simp only [Option.some.injEq, forall_eq']

/-! ## What is loaded -/

/-- Removing the directory of an entry does no harm to a package whose digest is used, if the path
of the entry is that of its digest. -/
theorem harmless_of_placed {index : Dictionary StoredPackage} {old : StoredPackage}
    (ends : spot w.working directory = home) (placed : Placed directory old)
    (used : Used index p.digest) : Harmless w index home p.folder old := by
  by_cases same : Digest.digits old.digest = p.folder
  · refine Or.inl ?_
    rwa [placed.digest, same, ← p.digest_eq_folder]
  · refine Or.inr fun place located _ below => same ?_
    rw [placed.path] at located
    obtain ⟨-, rfl⟩ := (locate_join_iff placed.isName).mp located
    have shelf := spot_join isName_shelf w.working directory
    rw [ends] at shelf
    change spot w.working (Path.join directory shelfName) ++ _ <+: _ at below
    rw [shelf] at below
    simpa using below

/-- A package is loaded after the directory has been brought into line if it lay in the directory
of its entry, and the entry that is replaced was removed without harm. -/
theorem load_of_align_iff (at_home : w.tree.Home w.working s.directory home)
    {entry : StoredPackage} {replaced : Option StoredPackage}
    (canonical : Reference.canonical text = .ok key) (bound : s.index.get? key = some entry)
    (path : entry.path = packagePath s.directory p.digest)
    (aligned : Runs (align s replaced) w (.ok ()) w') (events : List Event) :
    Runs (s.load text) { w' with events }.calm (.ok q) { w' with events }.calm ↔
      Lies w.tree home p.folder q ∧
        ∀ old, replaced = some old → Harmless w s.index home p.folder old := by
  obtain ⟨at_home', kept⟩ := lies_of_align_iff (p := q) p.folder at_home aligned
  rw [load_iff canonical bound, path]
  have read := readPackage_calm_iff (w := { w' with events }) (p := p) (q := q) at_home'
  exact read.trans kept

/-- **Putting.** When a package has been put, whatever stood in the directory of the store and
whatever its index had, it is loaded exactly if two things did no harm: taking a directory that
has both files of a package for that of the package, and removing the directory of the entry
that was replaced. The latter does none if the path of that entry is that of its digest. -/
theorem load_of_put_iff {entry : StoredPackage}
    (at_home : w.tree.Home w.working s.directory home) (grounded : w.tree.Grounded)
    (stored : Operates (PackageStore.put text p) s w (.ok entry) s' w') :
    ∃ v, Runs (shelve s.directory p) w (.ok ()) v ∧
      (Runs (s'.load text) w'.calm (.ok p) w'.calm ↔ Genuine s.directory p w ∧
        ∀ old, s.index.get? entry.reference = some old →
          Harmless v s'.index home p.folder old) ∧
      ∀ old, s.index.get? entry.reference = some old → Placed s.directory old →
        Harmless v s'.index home p.folder old := by
  obtain ⟨key, v, u, events, canonical, shelved, made, changed, aligned, rfl⟩ := of_put_ok stored
  obtain ⟨home_v, shelf⟩ := lies_of_shelve_iff at_home grounded shelved
  have reference : entry.reference = key := by rw [made, entryOf]
  have digest : entry.digest = p.digest := by rw [made, entryOf]
  have same : s'.directory = s.directory := by rw [changed]
  have path : entry.path = packagePath s'.directory p.digest := by rw [made, entryOf, same]
  have bound : s'.index.get? key = some entry := by
    rw [changed]
    exact Dictionary.get?_insert_self _ _ _
  rw [← same] at home_v
  refine ⟨v, shelved, ?_, fun old _ placed => ?_⟩
  · rw [← shelf, reference]
    exact load_of_align_iff (w := { v with readings := v.readings + 1 }) home_v canonical bound path
      aligned events
  · exact harmless_of_placed (same ▸ home_v.ends) placed ⟨key, entry, bound, digest⟩

namespace Found

/-- The package that is put. -/
def package : Package := { program := ⟨#[112]⟩, config := { info := "x" } }

/-- What its directory has when some program stands there. -/
def other (program : ByteArray) : Package := { package with program }

/-- The handle, which has no entries. -/
def store : PackageStore := { directory := "s", index := {} }

/-- The directory of the store, where a directory on the shelf has two files. -/
def tree (folder : String) (program config : ByteArray) : FileTree where
  nodes := [
    (["s"], .directory),
    (["s", shelfName], .directory),
    (["s", shelfName, folder], .directory),
    (["s", shelfName, folder, Package.programName], .file program),
    (["s", shelfName, folder, Configuration.fileName], .file config)]

/-- The world around the store, where some program stands in the directory of the package. -/
def world (program : ByteArray) : World where
  tree := tree package.folder program package.configBytes
  clock := fun _ => ⟨⟨2026, 1, 1⟩, 0, 0, 0, 0⟩

theorem at_home (program : ByteArray) :
    (world program).tree.Home (world program).working store.directory ["s"] :=
  Home.of_isName ⟨by decide, by decide, by decide, by decide⟩ rfl rfl

theorem grounded (program : ByteArray) : (world program).tree.Grounded := by
  apply grounded_of_parent
  simp [world, tree, node?, List.dropLast]

theorem lies (program : ByteArray) :
    Lies (world program).tree ["s"] package.folder (other program) where
  shelf := by simp [world, tree, node?]
  place := by simp [world, tree, node?]
  program := by simp [world, tree, node?, other]
  config := by
    have apart : Package.programName ≠ Configuration.fileName := by decide
    exact ⟨package.configBytes, by simp [world, tree, node?, apart], package.decode_configBytes⟩

/-- Nothing stands beside the shelf. -/
theorem vacant (program : ByteArray) {name : String} (beside : name ≠ shelfName)
    (rest : Location) : (world program).tree.node? (["s", name] ++ rest) = none := by
  simp [world, tree, node?, beside.symm]

theorem shelved (program : ByteArray) :
    Runs (shelve store.directory package) (world program) (.ok ()) (world program) := by
  have complete : (isComplete (packagePath store.directory package.digest) : WorldM Bool)
      (world program) = (true, world program) :=
    (lies program).isComplete (at_home program) package.isName_folder
  exact (Runs.lift complete).bind (Runs.pure _ _)

/-- The package is put, and what is loaded is what was found in its directory. -/
theorem operates_put (program : ByteArray) : ∃ entry s' w',
    Operates (PackageStore.put "a" package) store (world program) (.ok entry) s' w' ∧
      Runs (s'.load "a") w'.calm (.ok (other program)) w'.calm ∧
      store.index.get? entry.reference = none := by
  let key := "docker.io/library/a:latest"
  have canonical : Reference.canonical "a" = .ok key := rfl
  let v : World := { world program with readings := 1 }
  let entry := entryOf store.directory key package (v.clock 0)
  let s' : PackageStore := { store with index := store.index.insert key entry }
  have missing := vacant program (by decide : indexName ≠ shelfName)
  obtain ⟨tree, written, -⟩ := writes_index (w := v) s' rfl (at_home program)
    (vacant program (by decide : Path.temporary indexName ≠ shelfName) [])
    (fun node there => nomatch (missing []).symm.trans there) (by
      rintro _ ⟨rest, rfl⟩ -
      exact missing rest)
  have aligned : Runs (align s' none) v (.ok ()) { v with tree } := written
  obtain ⟨events, stored⟩ := PackageStore.operates_put canonical (shelved program) rfl aligned
  have bound : s'.index.get? key = some entry := Dictionary.get?_insert_self _ _ _
  refine ⟨_, _, _, stored, ?_, rfl⟩
  have loads := load_of_align_iff (s := s') (w := v) (p := package) (q := other program)
    (at_home program) canonical bound rfl aligned events
  exact loads.mpr ⟨lies program, nofun⟩

end Found

/-- A package is put whose directory has its files already, and it is loaded. -/
theorem load_of_put_iff_found :
    ∃ entry s' w' v, Operates (PackageStore.put "a" Found.package) Found.store
        (Found.world Found.package.program) (.ok entry) s' w' ∧
      Runs (shelve Found.store.directory Found.package) (Found.world Found.package.program)
        (.ok ()) v ∧
      Runs (s'.load "a") w'.calm (.ok Found.package) w'.calm := by
  obtain ⟨entry, s', w', stored, -, absent⟩ := Found.operates_put Found.package.program
  obtain ⟨v, shelved, iff, -⟩ := load_of_put_iff (Found.at_home _) (Found.grounded _) stored
  refine ⟨entry, s', w', v, stored, shelved, iff.mpr ⟨fun _ => ?_, fun old replaced => ?_⟩⟩
  · exact (readPackage_calm_iff (Found.at_home _)).mpr (Found.lies _)
  · rw [absent] at replaced
    cases replaced

/-- **Trust.** A package is put whose directory has both files of a package, but another program.
The call succeeds, and not the package is loaded but the other program. -/
theorem put_trusts :
    let other := Found.other ⟨#[113]⟩
    ∃ entry s' w', Operates (PackageStore.put "a" Found.package) Found.store
        (Found.world other.program) (.ok entry) s' w' ∧
      Runs (s'.load "a") w'.calm (.ok other) w'.calm ∧
      ¬ Runs (s'.load "a") w'.calm (.ok Found.package) w'.calm := by
  intro other
  obtain ⟨entry, s', w', stored, loaded, -⟩ := Found.operates_put other.program
  refine ⟨entry, s', w', stored, loaded, fun wanted => ?_⟩
  have same : Found.package = other := Except.ok.inj (loaded.unique wanted).1
  have programs : Found.package.program = other.program := congrArg Package.program same
  cases programs

end BpfDepot.PackageStore
