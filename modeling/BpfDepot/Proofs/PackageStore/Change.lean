import BpfDepot.Proofs.PackageStore.Shelf

/-! # Changing the shelf

Taking a package from the shelf, putting one on it and writing the index run without
fail in a stocked world, and the world that each leaves is stocked with what is then on
the shelf.
-/

namespace BpfDepot.PackageStore

open FileTree World

/-! ## Clearing a path -/

theorem clear_of_missing {w : World} {path : String}
    (missing : w.tree.kind? w.working path = none) : Runs (clear path) w (.ok ()) w := by
  unfold clear
  refine (Runs.lift (isPresent_eq path w)).bind ?_
  rw [missing]
  exact Runs.pure _ _

/-- Clearing a path where a directory stands removes it with everything in it. -/
theorem clear_of_directory {w : World} {directory name : String} {home : Location}
    (quiet : w.Quiet) (at_home : w.tree.Home w.working directory home)
    (plain : Path.IsName name) (node : w.tree.node? (home ++ [name]) = some .directory) :
    ∃ tree, Pruned w.tree tree (home ++ [name]) ∧
      Runs (clear (Path.join directory name)) w (.ok ()) { w with tree } := by
  obtain ⟨tree, removed, pruned⟩ := removeTree_join at_home plain node
  refine ⟨tree, pruned, ?_⟩
  unfold clear
  refine (Runs.lift (isPresent_eq _ w)).bind ?_
  rw [kind?_join at_home plain, node]
  refine Runs.attempt quiet ?_
  rw [FileTree.call, removed]
  rfl

/-! ## Writing and moving -/

/-- A file is written into a directory where nothing stands. -/
theorem write_file {w : World} {directory name : String} {home : Location} (quiet : w.Quiet)
    (at_home : w.tree.Home w.working directory home) (plain : Path.IsName name)
    (free : w.tree.node? (home ++ [name]) = none) (bytes : ByteArray) :
    ∃ tree, Runs (Files.attempt (.write (Path.join directory name) bytes)) w (.ok ())
        { w with tree } ∧ tree.Home w.working directory home ∧
      ∀ q, tree.node? q = if q = home ++ [name] then some (.file bytes) else w.tree.node? q := by
  have written := write_join at_home plain (by simp [free]) bytes
  refine ⟨w.tree.put (home ++ [name]) (.file bytes), Runs.attempt quiet ?_,
    at_home.put name _, node?_put (by simp) _⟩
  rw [FileTree.call, written]
  rfl

/-- What stands beside its target is moved there with everything below it. -/
theorem move_beside {w : World} {directory name target : String} {home : Location}
    (quiet : w.Quiet) (at_home : w.tree.Home w.working directory home)
    (plain : Path.IsName name) (named : Path.IsName target) (other : name ≠ target)
    (present : w.tree.node? (home ++ [name]) ≠ none)
    (fits : w.tree.node? (home ++ [target]) = none ∨
      (∃ bytes, w.tree.node? (home ++ [name]) = some (.file bytes)) ∧
        ∃ bytes, w.tree.node? (home ++ [target]) = some (.file bytes))
    (bare : w.tree.Bare (home ++ [target])) :
    ∃ tree, Runs (Files.attempt (.rename (Path.join directory name)
        (Path.join directory target))) w (.ok ()) { w with tree } ∧
      (∀ rest, tree.node? (home ++ target :: rest) = w.tree.node? (home ++ name :: rest)) ∧
      (∀ rest, tree.node? (home ++ name :: rest) = none) ∧
      ∀ q, ¬ home ++ [target] <+: q → ¬ home ++ [name] <+: q →
        tree.node? q = w.tree.node? q := by
  obtain ⟨tree, renamed, moved, gone, kept⟩ :=
    rename_beside at_home plain named other present fits bare
  refine ⟨tree, Runs.attempt quiet ?_, moved, gone, kept⟩
  rw [FileTree.call, renamed]
  rfl

/-- The file of the index holds the document of the entries of a handle. -/
def Written (t : FileTree) (home : Location) (s : PackageStore) : Prop :=
  t.node? (home ++ [indexName]) = some (.file (indexCodec.encodeLines s.list).toUTF8)

/-- The document of the index takes the place of its file, by way of a
file beside it; what is elsewhere stays. -/
theorem writes_index {home : Location} {w : World} (s : PackageStore) (quiet : w.Quiet)
    (at_home : w.tree.Home w.working s.directory home)
    (free : w.tree.node? (home ++ [Path.temporary indexName]) = none)
    (file : ∀ node, w.tree.node? (home ++ [indexName]) = some node → ∃ bytes, node = .file bytes)
    (bare : w.tree.Bare (home ++ [indexName])) :
    ∃ tree, Runs (PackageStore.writeIndex s) w (.ok ()) { w with tree } ∧ Written tree home s ∧
      (∀ rest, rest ≠ [] → tree.node? (home ++ indexName :: rest) =
        w.tree.node? (home ++ Path.temporary indexName :: rest)) ∧
      (∀ rest, tree.node? (home ++ Path.temporary indexName :: rest) = none) ∧
      ∀ q, ¬ home ++ [indexName] <+: q → ¬ home ++ [Path.temporary indexName] <+: q →
        tree.node? q = w.tree.node? q := by
  have apart : Path.temporary indexName ≠ indexName := by decide
  obtain ⟨drafted, writes, still, nodes⟩ := write_file quiet at_home isName_draft free
    (indexCodec.encodeLines s.list).toUTF8
  have source : drafted.node? (home ++ [Path.temporary indexName]) =
      some (.file (indexCodec.encodeLines s.list).toUTF8) := by rw [nodes, if_pos rfl]
  have target : drafted.node? (home ++ [indexName]) = w.tree.node? (home ++ [indexName]) := by
    rw [nodes, if_neg (by simpa using apart.symm)]
  obtain ⟨tree, moves, moved, gone, kept⟩ :=
    move_beside (w := { w with tree := drafted }) quiet still isName_draft isName_index apart
      (by rw [source]; exact Option.some_ne_none _) (by
        rw [target]
        cases found : w.tree.node? (home ++ [indexName]) with
        | none => exact Or.inl rfl
        | some node =>
            obtain ⟨bytes, rfl⟩ := file node found
            exact Or.inr ⟨⟨_, source⟩, bytes, rfl⟩) (by
        rintro _ ⟨rest, rfl⟩ other
        rw [nodes, if_neg (by simp [apart.symm])]
        exact bare _ (List.prefix_append _ _) other)
  refine ⟨tree, ?_, (moved []).trans source, fun rest further => ?_, gone, fun q outside away => ?_⟩
  · unfold PackageStore.writeIndex
    simp only [temporary_indexPath]
    exact (writes.explain _).bind (moves.explain _)
  · rw [moved, nodes, if_neg (by simpa using further)]
  · rw [kept q outside away, nodes, if_neg (by rintro rfl; exact away List.prefix_rfl)]

namespace Stocked

variable {shelf : Package → Prop} {directory : String} {home : Location} {w : World}
  {p : Package}

theorem clear_of_free (stocked : Stocked shelf directory home w) {name : String}
    (plain : Path.IsName name) (free : ∀ p, shelf p → p.folder ≠ name) :
    Runs (clear (Path.join (Path.join directory shelfName) name)) w (.ok ()) w :=
  clear_of_missing (stocked.kind?_of_free plain free)

/-- Changes below the directory around the packages leave the world stocked with what is
then on the shelf. -/
theorem of_shelf (stocked : Stocked shelf directory home w) {after : Package → Prop}
    {tree : FileTree} (same : ∀ q, ¬ home ++ [shelfName] <+: q → tree.node? q = w.tree.node? q)
    (around : tree.node? (home ++ [shelfName]) = some .directory)
    (held : ∀ p, after p → ∀ rest,
      tree.node? (home ++ shelfName :: p.folder :: rest) = p.node? rest)
    (vacant : ∀ name, (∀ p, after p → p.folder ≠ name) → ∀ rest,
      tree.node? (home ++ shelfName :: name :: rest) = none) :
    Stocked after directory home { w with tree } where
  quiet := stocked.quiet
  at_home := stocked.at_home.congr fun q outside =>
    same q (not_below_of_outside outside (List.cons_ne_nil _ _))
  held := held
  vacant := vacant
  around := Or.inl around
  index := by
    intro node there
    have other : shelfName ≠ indexName := by decide
    rw [same _ (by simpa using other)] at there
    exact stocked.index node there
  bare := by
    intro first rest other further
    rw [same _ (by simpa using Ne.symm other)]
    exact stocked.bare first rest other further

/-- **Taking from the shelf.** Clearing the directory of a package takes it from the
shelf. -/
theorem clear_of_held (stocked : Stocked shelf directory home w) (held : shelf p) :
    ∃ tree, Runs (clear (packagePath directory p.digest)) w (.ok ()) { w with tree } ∧
      Stocked (fun q => shelf q ∧ q.folder ≠ p.folder) directory home { w with tree } := by
  have around := stocked.around_of_held held
  have node := stocked.held p held []
  obtain ⟨tree, pruned, runs⟩ := clear_of_directory stocked.quiet (stocked.shelf_home around)
    p.isName_folder (by rw [List.append_assoc]; exact node)
  have kept (q : Location) (outside : ¬ home ++ [shelfName] ++ [p.folder] <+: q) :
      tree.node? q = w.tree.node? q := by rw [pruned, if_neg outside]
  have gone (rest : Location) : tree.node? (home ++ shelfName :: p.folder :: rest) = none := by
    rw [pruned, if_pos (by simp)]
  refine ⟨tree, runs, stocked.of_shelf ?_ ?_ ?_ ?_⟩
  · exact fun q outside => kept q fun below => outside ((List.prefix_append _ _).trans below)
  · rw [kept _ (by simp), around]
  · intro q ⟨still, apart⟩ rest
    rw [kept _ (by simpa using apart.symm)]
    exact stocked.held q still rest
  · intro name free rest
    by_cases same : name = p.folder
    · rw [same]
      exact gone rest
    · rw [kept _ (by simpa using Ne.symm same)]
      refine stocked.vacant name (fun q still here => ?_) rest
      by_cases apart : q.folder = p.folder
      · exact same (here.symm.trans apart)
      · exact free q ⟨still, apart⟩ here

/-- Clearing the directory of a package takes it from the shelf if it is there. -/
theorem clear_folder (stocked : Stocked shelf directory home w) (p : Package) :
    ∃ tree, Runs (clear (packagePath directory p.digest)) w (.ok ()) { w with tree } ∧
      Stocked (fun q => shelf q ∧ q.folder ≠ p.folder) directory home { w with tree } := by
  by_cases free : ∀ q, shelf q → q.folder ≠ p.folder
  · refine ⟨w.tree, stocked.clear_of_free p.isName_folder free, stocked.of_iff fun q => ?_⟩
    exact and_iff_left_of_imp (free q)
  · push Not at free
    obtain ⟨q, held, same⟩ := free
    have cleared := stocked.clear_of_held held
    rwa [Package.digest_eq_of_folder_eq same, same] at cleared

/-! ## Writing a package -/

/-- The directory that a package is written to first is made. -/
theorem createTree_beside (stocked : Stocked shelf directory home w) {name : String}
    (plain : Path.IsName name) (free : ∀ q, shelf q → q.folder ≠ name) :
    ∃ tree, Runs (Files.attempt (.createTree (Path.join (Path.join directory shelfName) name))) w
        (.ok ()) { w with tree } ∧
      tree.Home w.working (Path.join (Path.join directory shelfName) name)
        (home ++ [shelfName] ++ [name]) ∧
      ∀ q, tree.node? q =
        if q = home ++ [shelfName] ∨ q = home ++ [shelfName] ++ [name] then some .directory
        else w.tree.node? q := by
  have empty : w.tree.node? (home ++ [shelfName] ++ [name]) = none := by
    rw [List.append_assoc]
    exact stocked.vacant name free []
  rcases stocked.around with around | ⟨missing, -⟩
  · have at_shelf := stocked.shelf_home around
    refine ⟨_, Runs.attempt stocked.quiet (createTree_join at_shelf plain empty),
      at_shelf.put_directory plain, fun q => ?_⟩
    rw [node?_put (by simp)]
    by_cases here : q = home ++ [shelfName] ++ [name]
    · simp [here]
    · rw [if_neg here]
      split
      · next either => rw [either.resolve_right here, around]
      · rfl
  · refine ⟨_, Runs.attempt stocked.quiet
      (createTree_join_join stocked.at_home isName_shelf plain missing empty),
      (stocked.at_home.put_directory isName_shelf).put_directory plain, fun q => ?_⟩
    rw [node?_put (by simp), node?_put (by simp)]
    by_cases here : q = home ++ [shelfName] ++ [name]
    · simp [here]
    · rw [if_neg here]
      simp only [here, or_false]

/-- A package is written beside the directories of packages. -/
theorem draft (stocked : Stocked shelf directory home w) (p : Package) :
    ∃ made first tree,
      Runs (Files.attempt (.createTree
        (Path.join (Path.join directory shelfName) (Path.temporary p.folder)))) w (.ok ())
        { w with tree := made } ∧
      Runs (Files.attempt (.write (Path.join (Path.join (Path.join directory shelfName)
        (Path.temporary p.folder)) Package.programName) p.program)) { w with tree := made } (.ok ())
        { w with tree := first } ∧
      Runs (Files.attempt (.write (Path.join (Path.join (Path.join directory shelfName)
        (Path.temporary p.folder)) Configuration.fileName) p.configBytes))
        { w with tree := first } (.ok ()) { w with tree } ∧
      tree.node? (home ++ [shelfName]) = some .directory ∧
      (∀ rest, tree.node? (home ++ [shelfName] ++ [Path.temporary p.folder] ++ rest) =
        p.node? rest) ∧
      ∀ q, q ≠ home ++ [shelfName] →
        ¬ home ++ [shelfName] ++ [Path.temporary p.folder] <+: q →
          tree.node? q = w.tree.node? q := by
  let beside := home ++ [shelfName] ++ [Path.temporary p.folder]
  have unused : ∀ q, shelf q → q.folder ≠ Path.temporary p.folder :=
    fun q _ => q.folder_ne_temporary _
  have differ : Configuration.fileName ≠ Package.programName := by decide
  obtain ⟨made, makes, made_home, made_nodes⟩ :=
    stocked.createTree_beside p.isName_temporary unused
  have empty (rest : Location) (further : rest ≠ []) : made.node? (beside ++ rest) = none := by
    rw [made_nodes, if_neg (by simp [beside, further])]
    simpa [beside] using stocked.vacant _ unused rest
  obtain ⟨first, writes, first_home, first_nodes⟩ :=
    write_file (w := { w with tree := made }) stocked.quiet made_home isName_program
      (empty _ (List.cons_ne_nil _ _)) p.program
  obtain ⟨tree, fills, -, nodes⟩ :=
    write_file (w := { w with tree := first }) stocked.quiet first_home isName_config
      (by rw [first_nodes, if_neg (by simp [differ])]; exact empty _ (List.cons_ne_nil _ _))
      p.configBytes
  refine ⟨made, first, tree, makes, writes, fills, ?_, fun rest => ?_, fun q other outside => ?_⟩
  · rw [nodes, if_neg (by simp), first_nodes, if_neg (by simp), made_nodes, if_pos (Or.inl rfl)]
  · rw [nodes, first_nodes]
    match rest with
    | [] =>
        rw [if_neg (by simp), if_neg (by simp), made_nodes, if_pos (Or.inr (by simp))]
        rfl
    | [name] =>
        simp only [List.append_cancel_left_eq, List.cons.injEq, and_true, Package.node?]
        by_cases config : name = Configuration.fileName
        · rw [if_pos config, if_neg (by rw [config]; exact differ), if_pos config]
        · rw [if_neg config]
          split
          · rfl
          · exact empty [name] (List.cons_ne_nil _ _)
    | name :: further :: rest =>
        rw [if_neg (by simp), if_neg (by simp)]
        exact empty _ (List.cons_ne_nil _ _)
  · have apart (name : String) : q ≠ beside ++ [name] := by
      rintro rfl
      exact outside (List.prefix_append _ _)
    rw [nodes, if_neg (apart _), first_nodes, if_neg (apart _), made_nodes,
      if_neg (by rintro (here | here); exacts [other here, outside (here ▸ List.prefix_rfl)])]

/-- A package that has been written beside the shelf is moved to it. -/
theorem install (stocked : Stocked shelf directory home w)
    (free : ∀ q, shelf q → q.folder ≠ p.folder) {drafted : FileTree}
    (around : drafted.node? (home ++ [shelfName]) = some .directory)
    (content : ∀ rest, drafted.node? (home ++ [shelfName] ++ [Path.temporary p.folder] ++ rest) =
      p.node? rest)
    (same : ∀ q, q ≠ home ++ [shelfName] →
      ¬ home ++ [shelfName] ++ [Path.temporary p.folder] <+: q →
        drafted.node? q = w.tree.node? q) :
    ∃ tree, Runs (Files.attempt (.rename (Path.join (Path.join directory shelfName)
        (Path.temporary p.folder)) (packagePath directory p.digest))) { w with tree := drafted }
        (.ok ()) { w with tree } ∧
      Stocked (fun q => shelf q ∨ q = p) directory home { w with tree } := by
  have apart : Path.temporary p.folder ≠ p.folder := (p.folder_ne_temporary _).symm
  have at_shelf :
      drafted.Home w.working (Path.join directory shelfName) (home ++ [shelfName]) := by
    refine (stocked.at_home.congr fun q outside => same q ?_ ?_).join isName_shelf around
    · rintro rfl
      exact not_below_of_outside outside (by simp) List.prefix_rfl
    · rw [List.append_assoc]
      exact not_below_of_outside outside (by simp)
  have empty (rest : Location) :
      drafted.node? (home ++ [shelfName] ++ [p.folder] ++ rest) = none := by
    rw [same _ (by simp) (by simpa using apart)]
    simpa using stocked.vacant _ free rest
  have folder := content []
  rw [List.append_nil] at folder
  obtain ⟨tree, moves, moved, gone, kept⟩ :=
    move_beside (w := { w with tree := drafted }) stocked.quiet at_shelf p.isName_temporary
      p.isName_folder apart (by rw [folder]; exact Option.some_ne_none _)
      (Or.inl (by simpa using empty [])) (by rintro _ ⟨rest, rfl⟩ -; exact empty rest)
  have here (rest : Location) : tree.node? (home ++ shelfName :: p.folder :: rest) =
      p.node? rest := by simpa using (moved rest).trans (by simpa using content rest)
  -- beside the package there is what was there before, but for the directory that was moved
  have beside (name : String) (other : name ≠ p.folder) (further : name ≠ Path.temporary p.folder)
      (rest : Location) : tree.node? (home ++ shelfName :: name :: rest) =
        w.tree.node? (home ++ shelfName :: name :: rest) := by
    rw [kept _ (by simpa using other.symm) (by simpa using further.symm),
      same _ (by simp) (by simpa using further.symm)]
  refine ⟨tree, moves, stocked.of_shelf ?_ ?_ ?_ ?_⟩
  · intro q outside
    have away (name : String) : ¬ home ++ [shelfName] ++ [name] <+: q :=
      fun below => outside ((List.prefix_append _ _).trans below)
    rw [kept q (away _) (away _), same q (by rintro rfl; exact outside List.prefix_rfl) (away _)]
  · rw [kept _ (by simp) (by simp)]
    exact around
  · rintro q (held | rfl) rest
    · rw [beside _ (free q held) (q.folder_ne_temporary _)]
      exact stocked.held q held rest
    · exact here rest
  · intro name unused rest
    by_cases draft : name = Path.temporary p.folder
    · subst draft
      simpa using gone rest
    · rw [beside _ (unused p (Or.inr rfl)).symm draft]
      exact stocked.vacant name (fun q held => unused q (Or.inl held)) rest

/-- **Putting on the shelf.** A package that is not on the shelf is written there. -/
theorem writePackage_of_free (stocked : Stocked shelf directory home w)
    (free : ∀ q, shelf q → q.folder ≠ p.folder) :
    ∃ tree, Runs (writePackage (packagePath directory p.digest) p) w (.ok ()) { w with tree } ∧
      Stocked (fun q => shelf q ∨ q = p) directory home { w with tree } := by
  obtain ⟨made, first, drafted, makes, writes, fills, around, content, same⟩ := stocked.draft p
  obtain ⟨tree, moves, after⟩ := stocked.install free around content same
  have unused : ∀ q, shelf q → q.folder ≠ Path.temporary p.folder :=
    fun q _ => q.folder_ne_temporary _
  refine ⟨tree, ?_, after⟩
  unfold writePackage
  rw [temporary_packagePath]
  exact (stocked.clear_of_free p.isName_temporary unused).bind
    ((stocked.clear_of_free p.isName_folder free).bind
      (makes.bind (writes.bind (fills.bind moves))))

/-! ## Writing the index -/

/-- **Writing the index.** The file of the index then holds the document of the index. -/
theorem writeIndex (s : PackageStore) (stocked : Stocked shelf s.directory home w) :
    ∃ tree, Runs (PackageStore.writeIndex s) w (.ok ()) { w with tree } ∧
      Written tree home s ∧ Stocked shelf s.directory home { w with tree } := by
  have nothing (rest : Location) :
      w.tree.node? (home ++ Path.temporary indexName :: rest) = none :=
    stocked.bare _ rest (by decide) fun same => absurd same (by decide)
  obtain ⟨tree, writes, here, below, gone, still⟩ :=
    writes_index s stocked.quiet stocked.at_home (nothing []) stocked.index (by
      rintro _ ⟨rest, rfl⟩ other
      rw [List.append_assoc]
      exact stocked.bare _ rest (by decide) fun _ empty => other (by simp [empty]))
  have beside (first : String) (rest : Location) (other : first ≠ indexName)
      (further : first ≠ Path.temporary indexName) :
      tree.node? (home ++ first :: rest) = w.tree.node? (home ++ first :: rest) :=
    still _ (by simpa using other.symm) (by simpa using further.symm)
  have shelf_other : shelfName ≠ indexName ∧ shelfName ≠ Path.temporary indexName := by decide
  refine ⟨tree, writes, here, ?_⟩
  constructor
  · exact stocked.quiet
  · refine stocked.at_home.congr fun q outside => still q ?_ ?_
    all_goals exact not_below_of_outside outside (by simp)
  · intro p held rest
    rw [← stocked.held p held rest]
    exact beside _ _ shelf_other.1 shelf_other.2
  · intro name free rest
    rw [← stocked.vacant name free rest]
    exact beside _ _ shelf_other.1 shelf_other.2
  · have same := beside _ [] shelf_other.1 shelf_other.2
    rw [same]
    exact stocked.around
  · intro node there
    exact ⟨_, Option.some.inj (there.symm.trans here)⟩
  · intro first rest other further
    by_cases index : first = indexName
    · subst index
      rw [below rest (further rfl)]
      exact nothing rest
    · by_cases draft : first = Path.temporary indexName
      · subst draft
        exact gone rest
      · rw [beside _ _ index draft]
        exact stocked.bare first rest other further

end Stocked

end BpfDepot.PackageStore
