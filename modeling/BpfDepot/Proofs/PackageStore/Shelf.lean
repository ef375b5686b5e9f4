import BpfDepot.PackageStore
import BpfDepot.Proofs.Package
import BpfDepot.Proofs.World

/-! # The directories of packages

A store keeps packages on a shelf, each in a directory named by its digest. A world is
stocked with a shelf if below the directory of the store there is nothing but the
packages on the shelf and the index (`PackageStore.Stocked`). Looking for a package,
reading it, putting it on the shelf and taking it from the shelf succeed in such a
world, and leave it stocked with what the shelf then holds.
-/

namespace BpfDepot

open FileTree

/-- What stands at a place in the directory of a package. -/
def Package.node? (p : Package) : Location → Option Node
  | [] => some .directory
  | [name] =>
    if name = Package.programName then some (.file p.program)
    else if name = Configuration.fileName then some (.file p.configBytes)
    else none
  | _ => none

theorem Package.isName_folder (p : Package) : Path.IsName p.folder :=
  (Path.isName_of_plain (Digest.digits_ofBytes_plain _).1 (Digest.digits_ofBytes_plain _).2).1

theorem Package.isName_temporary (p : Package) : Path.IsName (Path.temporary p.folder) :=
  (Path.isName_of_plain (Digest.digits_ofBytes_plain _).1 (Digest.digits_ofBytes_plain _).2).2

/-- No package lies where something is being written. -/
theorem Package.folder_ne_temporary (p : Package) (name : String) :
    p.folder ≠ Path.temporary name := by
  intro same
  have point : '.' ∈ p.folder.toList := by
    rw [same, Path.temporary, String.toList_append, List.mem_append]
    exact Or.inr (by decide)
  exact ((Digest.digits_ofBytes_plain _).2 _ point).2 rfl

namespace PackageStore

/-- The name of the directory around the directories of packages. -/
def shelfName : String := "sha256"

/-- The name of the file of the index. -/
def indexName : String := "index.json"

theorem isName_shelf : Path.IsName shelfName :=
  ⟨by decide, by decide, by decide, by decide⟩

theorem isName_index : Path.IsName indexName :=
  ⟨by decide, by decide, by decide, by decide⟩

theorem isName_program : Path.IsName Package.programName :=
  ⟨by decide, by decide, by decide, by decide⟩

theorem isName_config : Path.IsName Configuration.fileName :=
  ⟨by decide, by decide, by decide, by decide⟩

/-- A package lies on the shelf of a store, in the directory with a name. -/
structure Lies (t : FileTree) (home : Location) (folder : String) (p : Package) : Prop where
  shelf : t.node? (home ++ [shelfName]) = some .directory
  place : t.node? (home ++ [shelfName] ++ [folder]) = some .directory
  program : t.node? (home ++ [shelfName] ++ [folder] ++ [Package.programName]) =
    some (.file p.program)
  config : ∃ bytes, t.node? (home ++ [shelfName] ++ [folder] ++ [Configuration.fileName]) =
    some (.file bytes) ∧ Configuration.decode bytes = .ok p.config

/-! ## Looking for a package and reading it -/

section Reading

variable {directory folder : String} {home : Location} {w w' : World} {p : Package}

/-- Whether a directory is complete is told without changing the world. -/
theorem isComplete_eq (path : String) (w : World) : (isComplete path : WorldM Bool) w =
    (if w.tree.kind? w.working (Path.join path Package.programName) = some .file then
      decide (w.tree.kind? w.working (Path.join path Configuration.fileName) = some .file)
    else false, w) := by
  unfold isComplete
  rw [World.bind_eq (World.isFile_eq _ w)]
  by_cases file : w.tree.kind? w.working (Path.join path Package.programName) = some .file
  · rw [if_pos file, if_pos (decide_eq_true file), World.isFile_eq]
  · rw [if_neg file, if_neg fun found => file (of_decide_eq_true found)]
    rfl

/-- Reading a package in a quiet world gives back what its two files hold. -/
theorem readPackage_iff {path : String} (quiet : w.Quiet) :
    World.Runs (readPackage path) w (.ok p) w' ↔ w' = w ∧
      w.tree.read w.working (Path.join path Package.programName) = .ok p.program ∧
      ∃ bytes, w.tree.read w.working (Path.join path Configuration.fileName) = .ok bytes ∧
        Configuration.decode bytes = .ok p.config := by
  have file {name : String} {bytes : ByteArray}
      (read : w.tree.read w.working (Path.join path name) = .ok bytes) :
      World.Runs (Files.explain (Files.attempt (.read (Path.join path name))) Error.io) w
        (.ok bytes) w := by
    refine (World.Runs.attempt quiet ?_).explain _
    rw [FileTree.call, read]
  have content {name : String} {bytes : ByteArray} {v : World}
      (runs : World.Runs (Files.explain (Files.attempt (.read (Path.join path name))) Error.io) w
        (.ok bytes) v) : v = w ∧ w.tree.read w.working (Path.join path name) = .ok bytes := by
    obtain ⟨same, rfl⟩ := (World.Runs.attempt quiet rfl).unique runs.of_explain_ok
    exact ⟨rfl, same.symm⟩
  constructor
  · intro runs
    rcases World.Runs.bind_cases runs with ⟨_, -, same⟩ | ⟨program, v, first, further⟩
    · cases same
    obtain ⟨rfl, here⟩ := content first
    rcases World.Runs.bind_cases further with ⟨_, -, same⟩ | ⟨bytes, u, second, last⟩
    · cases same
    obtain ⟨rfl, there⟩ := content second
    split at last
    · next config decoded =>
      obtain ⟨same, rfl⟩ := (World.Runs.pure _ _).unique last
      obtain rfl := Except.ok.inj same
      exact ⟨rfl, here, bytes, there, decoded⟩
    · exact nomatch ((World.Runs.throw _ _).unique last).1
  · rintro ⟨rfl, here, bytes, there, decoded⟩
    refine (file here).bind ((file there).bind ?_)
    rw [decoded]
    exact World.Runs.pure _ _

/-- **Reading.** What is read from a directory on the shelf is the package that lies
there. -/
theorem readPackage_iff_lies (at_home : w.tree.Home w.working directory home) (quiet : w.Quiet)
    (plain : Path.IsName folder) :
    World.Runs (readPackage (Path.join (Path.join directory shelfName) folder)) w (.ok p) w ↔
      Lies w.tree home folder p := by
  have ends : spot w.working (Path.join (Path.join directory shelfName) folder) =
      home ++ [shelfName] ++ [folder] := by
    rw [spot_join plain, spot_join isName_shelf, at_home.ends]
  have reached : w.tree.Reached w.working (Path.join (Path.join directory shelfName) folder) ↔
      w.tree.node? (home ++ [shelfName]) = some .directory ∧
        w.tree.node? (home ++ [shelfName] ++ [folder]) = some .directory := by
    rw [reached_join_iff plain, at_home.reached_join_iff isName_shelf, spot_join isName_shelf,
      at_home.ends]
  rw [readPackage_iff quiet, read_join_iff isName_program, reached, ends]
  simp only [read_join_iff isName_config, reached, ends]
  constructor
  · rintro ⟨-, ⟨⟨shelf, folder⟩, program⟩, bytes, ⟨-, config⟩, decoded⟩
    exact ⟨shelf, folder, program, bytes, config, decoded⟩
  · rintro ⟨shelf, folder, program, bytes, config, decoded⟩
    exact ⟨trivial, ⟨⟨shelf, folder⟩, program⟩, bytes, ⟨⟨shelf, folder⟩, config⟩, decoded⟩

theorem Lies.folder_home (lies : Lies w.tree home folder p)
    (at_home : w.tree.Home w.working directory home) (plain : Path.IsName folder) :
    w.tree.Home w.working (Path.join (Path.join directory shelfName) folder)
      (home ++ [shelfName] ++ [folder]) :=
  (at_home.join isName_shelf lies.shelf).join plain lies.place

theorem Lies.isComplete (lies : Lies w.tree home folder p)
    (at_home : w.tree.Home w.working directory home) (plain : Path.IsName folder) :
    (isComplete (Path.join (Path.join directory shelfName) folder) : WorldM Bool) w =
      (true, w) := by
  have at_folder := lies.folder_home at_home plain
  obtain ⟨bytes, config, -⟩ := lies.config
  rw [isComplete_eq, kind?_join at_folder isName_program, kind?_join at_folder isName_config,
    lies.program, config]
  rfl

end Reading

/-- The index is written to a file beside its own. -/
theorem isName_draft : Path.IsName (Path.temporary indexName) :=
  ⟨by decide, by decide, by decide, by decide⟩

theorem temporary_indexPath (directory : String) : Path.temporary (indexPath directory) =
    Path.join directory (Path.temporary indexName) := Path.temporary_join isName_index _

theorem temporary_packagePath (directory : String) (p : Package) :
    Path.temporary (packagePath directory p.digest) =
      Path.join (Path.join directory shelfName) (Path.temporary p.folder) :=
  Path.temporary_join p.isName_folder _

/-- Below the directory of a store there are the packages on a shelf and the index, and
nothing else. -/
structure Stocked (shelf : Package → Prop) (directory : String) (home : Location) (w : World) :
    Prop where
  /-- No call is broken off. -/
  quiet : w.Quiet
  /-- The directory of the store is there. -/
  at_home : w.tree.Home w.working directory home
  /-- The packages on the shelf lie in their directories. -/
  held : ∀ p, shelf p → ∀ rest,
    w.tree.node? (home ++ shelfName :: p.folder :: rest) = p.node? rest
  /-- Nothing lies beside them. -/
  vacant : ∀ name, (∀ p, shelf p → p.folder ≠ name) → ∀ rest,
    w.tree.node? (home ++ shelfName :: name :: rest) = none
  /-- The directory around them is there, unless it is not needed. -/
  around : w.tree.node? (home ++ [shelfName]) = some .directory ∨
    w.tree.node? (home ++ [shelfName]) = none ∧ ∀ p, ¬ shelf p
  /-- The index is a file, if it is there. -/
  index : ∀ node, w.tree.node? (home ++ [indexName]) = some node → ∃ bytes, node = .file bytes
  /-- There is nothing else. -/
  bare : ∀ first rest, first ≠ shelfName → (first = indexName → rest ≠ []) →
    w.tree.node? (home ++ first :: rest) = none

namespace Stocked

variable {shelf : Package → Prop} {directory : String} {home : Location} {w : World}
  {p : Package}

theorem of_tree_eq (stocked : Stocked shelf directory home w) {w' : World}
    (tree : w'.tree = w.tree) (working : w'.working = w.working)
    (interruptions : w'.interruptions = w.interruptions) : Stocked shelf directory home w' := by
  constructor
  · exact interruptions.trans stocked.quiet
  · rw [tree, working]
    exact stocked.at_home
  all_goals rw [tree]
  · exact stocked.held
  · exact stocked.vacant
  · exact stocked.around
  · exact stocked.index
  · exact stocked.bare

theorem of_iff (stocked : Stocked shelf directory home w) {other : Package → Prop}
    (same : ∀ p, other p ↔ shelf p) : Stocked other directory home w := by
  have equal : other = shelf := funext fun p => propext (same p)
  rwa [equal]

theorem around_of_held (stocked : Stocked shelf directory home w) (held : shelf p) :
    w.tree.node? (home ++ [shelfName]) = some .directory :=
  stocked.around.resolve_right fun empty => empty.2 p held

theorem shelf_home (stocked : Stocked shelf directory home w)
    (around : w.tree.node? (home ++ [shelfName]) = some .directory) :
    w.tree.Home w.working (Path.join directory shelfName) (home ++ [shelfName]) :=
  stocked.at_home.join isName_shelf around

theorem lies (stocked : Stocked shelf directory home w) (held : shelf p) :
    Lies w.tree home p.folder p := by
  have found (rest : Location) :
      w.tree.node? (home ++ [shelfName] ++ [p.folder] ++ rest) = p.node? rest := by
    rw [← stocked.held p held rest]
    simp only [List.append_assoc, List.cons_append, List.nil_append]
  refine ⟨stocked.around_of_held held, ?_, found _, p.configBytes, found _, p.decode_configBytes⟩
  rw [← List.append_nil (home ++ [shelfName] ++ [p.folder])]
  exact found []

theorem isComplete_of_held (stocked : Stocked shelf directory home w) (held : shelf p) :
    (isComplete (packagePath directory p.digest) : WorldM Bool) w = (true, w) :=
  (stocked.lies held).isComplete stocked.at_home p.isName_folder

theorem not_reached (stocked : Stocked shelf directory home w) {name : String}
    (plain : Path.IsName name) (free : ∀ p, shelf p → p.folder ≠ name) :
    ¬ w.tree.Reached w.working (Path.join (Path.join directory shelfName) name) := by
  rw [reached_join_iff plain, stocked.at_home.reached_join_iff isName_shelf,
    spot_join isName_shelf, stocked.at_home.ends, List.append_assoc]
  rintro ⟨-, node⟩
  have nothing := stocked.vacant name free []
  rw [List.singleton_append, nothing] at node
  cases node

theorem kind?_of_free (stocked : Stocked shelf directory home w) {name : String}
    (plain : Path.IsName name) (free : ∀ p, shelf p → p.folder ≠ name) :
    w.tree.kind? w.working (Path.join (Path.join directory shelfName) name) = none := by
  by_cases around : w.tree.node? (home ++ [shelfName]) = some .directory
  · rw [kind?_join (stocked.shelf_home around) plain, List.append_assoc]
    have nothing := stocked.vacant name free []
    rw [List.singleton_append, nothing]
    rfl
  · refine kind?_join_of_not_reached ?_ plain
    rw [stocked.at_home.reached_join_iff isName_shelf]
    exact around

theorem isComplete_of_free (stocked : Stocked shelf directory home w)
    (free : ∀ q, shelf q → q.folder ≠ p.folder) :
    (isComplete (packagePath directory p.digest) : WorldM Bool) w = (false, w) := by
  have unreached := stocked.not_reached p.isName_folder free
  rw [isComplete_eq, packagePath]
  have nothing := kind?_join_of_not_reached unreached isName_program
  change (if w.tree.kind? w.working (Path.join (Path.join (Path.join directory shelfName) p.folder)
    Package.programName) = some .file then _ else false, w) = _
  rw [nothing]
  rfl

/-- **Reading.** A package on the shelf is read as it is. -/
theorem readPackage_of_held (stocked : Stocked shelf directory home w) (held : shelf p) :
    World.Runs (readPackage (packagePath directory p.digest)) w (.ok p) w :=
  (readPackage_iff_lies stocked.at_home stocked.quiet p.isName_folder).mpr (stocked.lies held)

end Stocked

end PackageStore

end BpfDepot
