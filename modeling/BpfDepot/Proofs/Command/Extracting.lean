import BpfDepot.Proofs.Command.Steps
import BpfDepot.Proofs.FileTree.Bringing
import BpfDepot.Proofs.PackageStore.Failure
import BpfDepot.Proofs.PackageStore.Surroundings
import BpfDepot.Proofs.PackageStore.Tidy

/-! # Packages that leave a store and come back

A package is written to a directory outside of the store, and its program is packaged again with
what the configuration there says (`Command.repackaged_of_history`). The configuration is in one
layout in the store and in another one outside; it is read as the same in both. So the package
that comes back is the one that has left, and its entry tells the same of it.

The path of the directory must not lead through places of the store that are missing, since all
directories of the path are made: one of them can stand where the store is about to write
(`Command.obstructed_by_extract`).
-/

namespace BpfDepot.Command

open FileTree World PackageStore

variable {settings : Settings} {shelf : Package → Prop} {home : Location}
  {directory output path text key : String} {p : Package} {t : FileTree} {s : PackageStore}
  {w : World} {entry : StoredPackage}

/-! ## Writing the files of a package -/

/-- The files of a package can be written to a directory. -/
structure Writable (w : World) (output : String) (t : FileTree) : Prop where
  /-- The directory is made, or it is there. -/
  made : w.tree.createTree w.working output = (t, .ok ())
  /-- There is a directory where its path starts. -/
  standing : w.tree.node? (start w.working output) = some .directory
  /-- No directory stands in the place of a file. -/
  free : ∀ name ∈ [Package.programName, Configuration.fileName],
    t.node? (spot w.working output ++ [name]) ≠ some .directory

/-- The tree when the files of a package have been written. -/
def unpacked (t : FileTree) (place : Location) (p : Package) : FileTree :=
  (t.put (place ++ [Package.programName]) (.file p.program)).put
    (place ++ [Configuration.fileName]) (.file p.config.lines.toUTF8)

theorem node?_unpacked_program (t : FileTree) (place : Location) (p : Package) :
    (unpacked t place p).node? (place ++ [Package.programName]) = some (.file p.program) := by
  rw [unpacked, node?_put_of_ne (by simp [Package.programName, Configuration.fileName]),
    node?_put_self (by simp)]

theorem node?_unpacked_config (t : FileTree) (place : Location) (p : Package) :
    (unpacked t place p).node? (place ++ [Configuration.fileName]) =
      some (.file p.config.lines.toUTF8) := node?_put_self (by simp) _

/-- Nothing else is written. -/
theorem node?_unpacked_of_ne {place q : Location}
    (other : ∀ name ∈ [Package.programName, Configuration.fileName], q ≠ place ++ [name]) :
    (unpacked t place p).node? q = t.node? q := by
  rw [unpacked, node?_put_of_ne (other _ (by simp)), node?_put_of_ne (other _ (by simp))]

namespace Writable

/-- What was there is there when the directory of the files has been made. -/
theorem spares (writable : Writable w output t) {q : Location} {node : Node}
    (found : w.tree.node? q = some node) : t.node? q = some node := by
  have made : (w.tree.makeTree (start w.working output) (Path.names output).reverse).1 = t :=
    congrArg Prod.fst writable.made
  have spared : Spares (fun _ => True) w.tree
      (w.tree.makeTree (start w.working output) (Path.names output).reverse).1 :=
    spares_makeTree _ _ _
  exact made ▸ spared q trivial node found

theorem reached (writable : Writable w output t) : t.Reached w.working output :=
  (of_createTree_ok writable.standing writable.made).1

/-- Beside the files nothing changes but what is missing on the way to them. -/
theorem node?_unpacked (writable : Writable w output t) (p : Package) {q : Location}
    (way : q ∈ route (start w.working output) (Path.names output) → w.tree.node? q ≠ none)
    (other : ∀ name ∈ [Package.programName, Configuration.fileName],
      q ≠ spot w.working output ++ [name]) :
    (unpacked t (spot w.working output) p).node? q = w.tree.node? q := by
  rw [node?_unpacked_of_ne other]
  by_cases member : q ∈ route (start w.working output) (Path.names output)
  · obtain ⟨node, there⟩ := Option.ne_none_iff_exists'.mp (way member)
    rw [there, writable.spares there]
  · exact (of_createTree_ok writable.standing writable.made).2 q member

/-- The second file can be written after the first one. -/
theorem free_config (writable : Writable w output t) (p : Package) :
    (t.put (spot w.working output ++ [Package.programName]) (.file p.program)).node?
      (spot w.working output ++ [Configuration.fileName]) ≠ some .directory := by
  rw [node?_put_of_ne (by simp [Package.programName, Configuration.fileName])]
  exact writable.free _ (by simp)

theorem reached_unpacked (writable : Writable w output t) (p : Package) :
    (unpacked t (spot w.working output) p).Reached w.working output :=
  (writable.reached.put (writable.free _ (by simp)) _).put (writable.free_config p) _

/-- Where no file is written directories stay. -/
theorem stands_unpacked (writable : Writable w output t) (p : Package) {q : Location}
    (found : w.tree.node? q = some .directory) :
    (unpacked t (spot w.working output) p).node? q = some .directory :=
  node?_put_of_free (writable.free_config p) _
    (node?_put_of_free (writable.free _ (by simp)) _ (writable.spares found))

/-- **Writing.** In a quiet world the files of a package are written. -/
theorem runs_writeFiles (writable : Writable w output t) (quiet : w.Quiet) (p : Package) :
    Runs (writeFiles p output) w (.ok ())
      { w with tree := unpacked t (spot w.working output) p } := by
  have wrote {v : World} (quiet : v.Quiet) {name : String} {bytes : ByteArray} {tree : FileTree}
      (done : v.tree.write v.working (Path.join output name) bytes = .ok tree) :
      Runs (Files.attempt (.write (Path.join output name) bytes)) v (.ok ()) { v with tree } := by
    refine Runs.attempt quiet ?_
    rw [FileTree.call, done]
    rfl
  have made : Runs (Files.attempt (.createTree output)) w (.ok ()) { w with tree := t } :=
    Runs.attempt quiet writable.made
  let begun := t.put (spot w.working output ++ [Package.programName]) (.file p.program)
  have program := wrote (v := { w with tree := t }) quiet
    (write_of_reached writable.reached isName_program (writable.free _ (by simp)) p.program)
  have config := wrote (v := { w with tree := begun }) quiet
    (write_of_reached (writable.reached.put (writable.free _ (by simp)) _) isName_config
      (writable.free_config p) p.config.lines.toUTF8)
  exact (runs_calling made _).bind ((runs_calling program _).bind (runs_calling config _))

end Writable

/-- **Extracting.** When a package is loaded its files are written. -/
theorem runs_runExtract {r : PackageStore} (place : settings.storePath w.home = directory)
    (quiet : w.Quiet) (opened : Runs (openAt directory) w (.ok r) w)
    (loaded : Runs (r.load text) w (.ok p) w) (writable : Writable w output t) :
    Runs (runExtract settings text output) w (.ok ()) { w with
      tree := unpacked t (spot w.working output) p
      output := w.output ++ ("Exported " ++ text ++ " to " ++ output ++ "\n") } :=
  (runs_openStore place opened).bind ((runs_operation loaded).bind
    ((writable.runs_writeFiles quiet p).bind (runs_printLine _ _)))

/-! ## Outside of a store -/

/-- A directory outside of a store to which the files of a package can be written. -/
structure Outlet (w : World) (home : Location) (output : String) (t : FileTree) : Prop
    extends Writable w output t where
  /-- It is not in the directory of the store. -/
  outside : ¬ home <+: spot w.working output
  /-- Its path leads through no place of the store that is missing. -/
  way : ∀ p ∈ route (start w.working output) (Path.names output), home <+: p →
    w.tree.node? p ≠ none

/-- What there is when a package has been written to a directory outside of a store. -/
structure Exported (w : World) (home : Location) (output : String) (p : Package) (v : World) :
    Prop where
  /-- One file has the bytes of the program. -/
  program : v.tree.read v.working (Path.join output Package.programName) = .ok p.program
  /-- The other one is read as the configuration. -/
  config : ∃ bytes, v.tree.read v.working (Path.join output Configuration.fileName) = .ok bytes ∧
    Configuration.decode bytes = .ok p.config
  /-- In the directory of the store nothing has changed. -/
  store : ∀ q, home <+: q → v.tree.node? q = w.tree.node? q

theorem Writable.read_program (writable : Writable w output t) (p : Package) :
    (unpacked t (spot w.working output) p).read w.working (Path.join output Package.programName) =
      .ok p.program :=
  (read_join_iff isName_program).mpr ⟨writable.reached_unpacked p, node?_unpacked_program _ _ _⟩

theorem Writable.read_config (writable : Writable w output t) (p : Package) :
    (unpacked t (spot w.working output) p).read w.working
      (Path.join output Configuration.fileName) = .ok p.config.lines.toUTF8 :=
  (read_join_iff isName_config).mpr ⟨writable.reached_unpacked p, node?_unpacked_config _ _ _⟩

/-- What is written to an outlet leaves the directory of the store alone. -/
theorem Outlet.node?_below (outlet : Outlet w home output t)
    (node : w.tree.node? home = some .directory) (p : Package) {q : Location} (below : home <+: q) :
    (unpacked t (spot w.working output) p).node? q = w.tree.node? q := by
  have elsewhere : ∀ name ∈ [Package.programName, Configuration.fileName],
      q ≠ spot w.working output ++ [name] := by
    rintro name member rfl
    rcases List.prefix_concat_iff.mp below with same | inside
    · exact outlet.free name member (same ▸ outlet.spares node)
    · exact outlet.outside inside
  exact outlet.toWritable.node?_unpacked p (fun member => outlet.way q member below) elsewhere

/-- **Exports.** In a directory that is kept a stored package is written to an outlet, and the
directory is kept. -/
theorem exported_of_kept (kept : Kept shelf home s w)
    (place : settings.storePath w.home = s.directory) (found : s.get? text = some entry)
    (outlet : Outlet w home output t) :
    ∃ p tree printed, shelf p ∧ p.digest = entry.digest ∧ Runs (s.load text) w (.ok p) w ∧
      Runs (runExtract settings text output) w (.ok ()) { w with tree, output := printed } ∧
      Exported w home output p { w with tree, output := printed } ∧
      Kept shelf home s { w with tree, output := printed } := by
  obtain ⟨key, bound⟩ := index_of_get? found
  obtain ⟨-, directory, ⟨p, held, digest⟩, -⟩ := kept.lodging key entry bound
  have loaded : Runs (s.load text) w (.ok p) w := by
    unfold load
    rw [found]
    dsimp only
    rw [directory, ← digest]
    exact kept.stocked.readPackage_of_held held
  obtain ⟨index, opened, same⟩ := kept.openAt
  have again := loaded
  rw [← (kept.agree same).load_eq] at again
  have store (q : Location) (below : home <+: q) :=
    outlet.node?_below kept.stocked.at_home.node p below
  refine ⟨p, _, _, held, digest, loaded,
    runs_runExtract place kept.stocked.quiet opened again outlet.toWritable,
    ⟨outlet.read_program p, ⟨_, outlet.read_config p, p.config.decode_lines⟩, store⟩, ?_⟩
  exact kept.of_inside ⟨store, fun q => outlet.stands_unpacked p, rfl, id⟩

/-! ## Packaging again -/

theorem runs_read (quiet : w.Quiet) {bytes : ByteArray}
    (read : w.tree.read w.working path = .ok bytes) (word : FileFault → String) :
    Runs (calling (.read path) word) w (.ok bytes) w := by
  have called : Runs (Files.attempt (.read path)) w (.ok bytes) w := by
    refine Runs.attempt quiet ?_
    rw [FileTree.call, read]
  exact runs_calling called word

section Packaging

variable {r s' : PackageStore} {w' : World} (place : settings.storePath w.home = directory)
  (quiet : w.Quiet) (read : w.tree.read w.working path = .ok p.program)
  (opened : Runs (openAt directory) w (.ok r) w)

include place quiet read opened

/-- **Packaging.** When the program is read and the package is put, it is told. -/
theorem runs_runPackage (put : Operates (PackageStore.put text p) r w (.ok entry) s' w') :
    Runs (runPackage settings path text p.config.info) w (.ok ())
      { w' with output := w'.output ++ ("Packaged: " ++ arrival entry ++ "\n") } :=
  (runs_read quiet read _).bind ((runs_openStore place opened).bind
    ((runs_onStore put).bind (runs_printLine _ _)))

theorem runs_runPackage_of_error {error : Error}
    (put : Operates (PackageStore.put text p) r w (.error error) s' w') :
    Runs (runPackage settings path text p.config.info) w (.error (.error error)) w' :=
  (runs_read quiet read _).bind ((runs_openStore place opened).bind
    ((runs_onStore put).bind_error _))

end Packaging

/-- A package is put in a directory that is kept. -/
theorem put_of_kept (kept : Kept shelf home s w) (valid : ∀ i, (w.clock i).Valid)
    (small : p.size < 2 ^ 64) (canonical : Reference.canonical text = .ok key) :
    ∃ s' w' after entry, Operates (PackageStore.put text p) s w (.ok entry) s' w' ∧
      Kept after home s' w' ∧ s'.directory = s.directory ∧ s'.index.get? key = some entry ∧
      entry.digest = p.digest ∧ entry.size = p.size := by
  obtain ⟨tree, between, shelved, stocked, more, there⟩ := kept.stocked.shelve p
  have lodging := kept.lodging.mono more
  have lodged := lodged_entryOf s.directory key there small (valid w.readings)
  let ready : World := { w with tree, readings := w.readings + 1 }
  have stocked' : Stocked between s.directory home ready := stocked.of_tree_eq rfl rfl rfl
  let entry := entryOf s.directory key p (w.clock w.readings)
  have replaced (old : StoredPackage) (bound : s.index.get? key = some old) :
      ∃ name, Lodged between s.directory name old := ⟨key, lodging key old bound⟩
  obtain ⟨aligned, after, aligns, next⟩ := Stocked.align
    (s := { s with index := s.index.insert key entry }) stocked' (lodging.insert lodged) replaced
  obtain ⟨events, put⟩ := operates_put canonical shelved rfl aligns
  have described := describes_entryOf s.directory key p (w.clock w.readings)
  exact ⟨_, _, after, entry, put, next.of_tree_eq rfl rfl rfl, rfl,
    Dictionary.get?_insert_self _ _ _, described.digest, described.size⟩

/-- A program is packaged under a reference, and the store has the entry under the reference when
it is opened again. -/
structure Packaged (settings : Settings) (directory : String) (w : World)
    (path text info : String) (entry : StoredPackage) (w' : World) (r : PackageStore) : Prop where
  packaged : Runs (runPackage settings path text info) w (.ok ()) w'
  opened : Runs (openAt directory) w' (.ok r) w'
  found : r.get? text = some entry

/-- **Packages.** In a directory that is kept a program that is read is packaged under any
reference. -/
theorem packaged_of_kept (kept : Kept shelf home s w)
    (place : settings.storePath w.home = s.directory) (valid : ∀ i, (w.clock i).Valid)
    (small : p.size < 2 ^ 64) (read : w.tree.read w.working path = .ok p.program)
    (canonical : Reference.canonical text = .ok key) :
    ∃ entry w' r, Packaged settings s.directory w path text p.config.info entry w' r ∧
      entry.digest = p.digest ∧ entry.size = p.size := by
  obtain ⟨index, opened, same⟩ := kept.openAt
  have agree := kept.agree same
  obtain ⟨s', w', after, entry, put, last, directory, bound, digest, size⟩ :=
    put_of_kept (kept.of_agree agree.symm) valid small canonical
  let printed : World := { w' with
    output := w'.output ++ ("Packaged: " ++ arrival entry ++ "\n") }
  have told : Kept after home s' printed := last.of_tree_eq rfl rfl rfl
  obtain ⟨index', reopened, again⟩ := told.openAt
  rw [show s'.directory = s.directory from directory] at reopened
  refine ⟨entry, _, _, ⟨runs_runPackage place kept.stocked.quiet read opened put, reopened, ?_⟩,
    digest, size⟩
  rw [get?_of_canonical canonical]
  exact (again key).trans bound

/-- What a store that represents a map has under a text is the package of the map. -/
theorem bound_of_loads {b : Bindings} (represents : Represents b home s w)
    (found : s.get? text = some entry) (loaded : Runs (s.load text) w (.ok p) w) :
    b.at? text = some p ∧ entry.size = p.size := by
  cases bound : b.at? text with
  | none =>
      rw [represents.indexed.get?_of_none bound] at found
      cases found
  | some q =>
      obtain ⟨key, other, -, -, there, described⟩ := represents.indexed.get?_of_some bound
      rw [found] at there
      obtain rfl := Option.some.inj there
      obtain ⟨same, -⟩ := (represents.answers.loads text q bound).unique loaded
      obtain rfl := Except.ok.inj same
      exact ⟨rfl, described.size⟩

/-- **Histories.** Open a store where nothing stands below the place of its directory, and let
nothing else write there and no call be broken off. Whatever is asked of it then, and however
often it is opened again, every package that it has can be exported to any outlet. The files there
hold its program and its configuration, and the store is as it was. When the program is packaged
again, by whatever path to it and under whatever reference, with what the configuration says, the
entry tells the digest that the exported one tells. If digests tell apart the packages of the
history, the package is the one that was bound last, and the entry tells the same size as well. -/
theorem repackaged_of_history {directory : String} {before world : World} {store : PackageStore}
    (quiet : before.Quiet) (standing : before.tree.node? before.working = some .directory)
    (direct : Direct before.working directory)
    (fresh : before.tree.Bare (spot before.working directory))
    (opened : Runs (openAt directory) before (.ok store) world)
    (clock : ∀ i, (world.clock i).Valid) (steps : List Step)
    (small : ∀ step ∈ steps, ∀ p ∈ step.packages, p.size < 2 ^ 64) :
    ∃ replies s w, Operates (answerAll steps) store world (.ok replies) s w ∧
      ∀ settings : Settings, settings.storePath w.home = directory →
      ∀ text entry, s.get? text = some entry →
      ∀ output t, Outlet w (spot before.working directory) output t →
        ∃ p v r, Runs (s.load text) w (.ok p) w ∧
          Runs (runExtract settings text output) w (.ok ()) v ∧
          Exported w (spot before.working directory) output p v ∧
          Runs (openAt directory) v (.ok r) v ∧ r.list = s.list ∧
          (Package.Told (steps.flatMap Step.packages) →
            (steps.foldl Bindings.afterStep Bindings.none).at? text = some p) ∧
          ∀ path reference key, Reference.canonical reference = .ok key →
            v.tree.locate v.working path =
              v.tree.locate v.working (Path.join output Package.programName) →
            ∃ bound v' r', Packaged settings directory v path reference p.config.info bound v' r' ∧
              bound.digest = entry.digest ∧
              (Package.Told (steps.flatMap Step.packages) → bound.size = entry.size) := by
  have kept := kept_of_openAt quiet standing direct fresh opened
  have represents := represents_of_openAt quiet standing direct fresh opened
  obtain ⟨rfl, -, -, -⟩ := bare_of_openAt opened quiet standing direct fresh
  obtain ⟨replies, s, w, after, ran, last, follows, place, turned⟩ :=
    kept.answerAll_follows (P := fun p => p.size < 2 ^ 64) clock small small
  have place' : s.directory = directory := place
  have fits : AllLie (fun p => p.size < 2 ^ 64) (spot before.working directory) w.tree :=
    follows.shelf (kept.stocked.allLie fun _ none => none.elim)
  refine ⟨replies, s, w, ran, fun settings named text entry found output t outlet => ?_⟩
  obtain ⟨p, tree, printed, held, digest, loaded, exports, exported, still⟩ :=
    exported_of_kept last (named.trans place'.symm) found outlet
  obtain ⟨index, reopened, same⟩ := still.openAt
  rw [place'] at reopened
  have agree := still.agree same
  have told (told : Package.Told (steps.flatMap Step.packages)) :
      (steps.foldl Bindings.afterStep Bindings.none).at? text = some p ∧ entry.size = p.size := by
    obtain ⟨replies', s', w', -, alike, mapped, -⟩ := represents.answerAll kept clock told
      (fun q holds => absurd holds (Bindings.not_holds_none q)) small
      fun step member q one => List.mem_flatMap.mpr ⟨step, member, one⟩
    obtain ⟨-, rfl, rfl⟩ := ran.unique alike
    exact bound_of_loads mapped found loaded
  refine ⟨p, _, _, loaded, exports, exported, reopened, agree.list_eq,
    fun apart => (told apart).1, fun path reference key canonical there => ?_⟩
  have read : tree.read w.working path = .ok p.program := by
    have program := exported.program
    unfold FileTree.read at program ⊢
    rwa [there]
  have size : p.size < 2 ^ 64 := fits _ p (last.stocked.lies held)
  rw [← turned] at clock
  obtain ⟨bound, v', r', packaged, same, sized⟩ :=
    packaged_of_kept still (named.trans place'.symm) clock size read canonical
  exact ⟨bound, v', r', place' ▸ packaged, same.trans digest,
    fun apart => sized.trans (told apart).2.symm⟩

/-! ## A store with one package -/

namespace Departure

/-- The package is put. -/
def steps : List Step := [.ask (.change (.put "probe" Probe.package))]

def setup : Settings := { storeDirectory := some "store" }

theorem only : ∀ p ∈ steps.flatMap Step.packages, p = Probe.package :=
  fun _ => List.mem_singleton.mp

theorem small : ∀ step ∈ steps, ∀ p ∈ step.packages, p.size < 2 ^ 64 :=
  List.forall_mem_flatMap.mp (Probe.small only)

theorem told : Package.Told (steps.flatMap Step.packages) := Package.told_of_only only

/-- What is known of the store when the package has been put. -/
structure Reached (s : PackageStore) (w : World) : Prop where
  kept : ∃ shelf, Kept shelf ["store"] s w
  represents : Represents (steps.foldl Bindings.afterStep Bindings.none) ["store"] s w
  directory : s.directory = "store"
  working : w.working = []
  /-- Beside the store there is nothing. -/
  beside : ∀ q, ¬ ["store"] <+: q → q ≠ [] → w.tree.node? q = none

theorem reached_of_answerAll {replies : List Reply}
    (ran : Operates (answerAll steps) Probe.store Probe.world (.ok replies) s w) :
    Reached s w := by
  obtain ⟨_, _, _, after, first, last, follows, place, -⟩ :=
    Probe.kept.answerAll_follows (P := fun _ => True) Probe.clock small fun _ _ _ _ => trivial
  obtain ⟨_, _, _, -, second, mapped, -⟩ := Probe.represents.answerAll Probe.kept Probe.clock told
    (fun q holds => absurd holds (Bindings.not_holds_none q)) small
    fun step member q one => List.mem_flatMap.mpr ⟨step, member, one⟩
  obtain ⟨-, rfl, rfl⟩ := ran.unique first
  obtain ⟨-, rfl, rfl⟩ := ran.unique second
  refine ⟨⟨after, last⟩, mapped, place, follows.working, fun q apart rooted => ?_⟩
  refine (follows.outside q apart).trans ((node?_eq_none_iff rooted).mpr ?_)
  intro entry member
  obtain rfl := List.mem_singleton.mp member
  exact fun same => apart (same ▸ List.prefix_rfl)

theorem Reached.found (reached : Reached s w) : ∃ entry, s.get? "probe" = some entry := by
  obtain ⟨entry, found, -⟩ :=
    reached.represents.indexed.present "docker.io/library/probe:latest" Probe.package rfl
  exact ⟨entry, (get?_of_canonical rfl s).trans found⟩

/-- The package can be exported to a directory beside the store. -/
theorem Reached.outlet (reached : Reached s w) :
    Outlet w ["store"] "out" (w.tree.put ["out"] .directory) := by
  have absent (rest : Location) : w.tree.node? ("out" :: rest) = none :=
    reached.beside _ (by simp) (by simp)
  have way : route (start w.working "out") (Path.names "out") = [[], ["out"]] := by
    rw [reached.working]
    rfl
  have ends : spot w.working "out" = ["out"] := by
    rw [reached.working]
    rfl
  have begins : start w.working "out" = [] := by
    rw [reached.working]
    rfl
  refine ⟨⟨?made, ?standing, ?free⟩, ?outside, ?way⟩
  case made =>
    have followed : w.tree.follow [] (([] : List String) ++ ["out"]) = .ok ["out"] := rfl
    unfold createTree
    rw [begins]
    exact makeTree_append (makeDirectory_eq_ok.mpr ⟨["out"], followed, absent [], rfl⟩)
  case standing => rw [begins, node?_root]
  case free =>
    intro name _
    rw [ends, node?_put_of_ne (by simp), List.singleton_append, absent]
    nofun
  case outside =>
    rw [ends]
    decide
  case way =>
    rw [way]
    intro p member below
    simp only [List.mem_cons, List.not_mem_nil, or_false] at member
    rcases member with rfl | rfl <;> exact absurd below (by decide)

end Departure

/-- A store takes a package, which is exported to a directory beside the store. Its program is
packaged again under another reference, and the entry tells the same. -/
theorem repackaged_of_history_probe :
    ∃ replies s w, Operates (answerAll Departure.steps) Probe.store Probe.world
        (.ok replies) s w ∧
      ∃ entry t p v r, s.get? "probe" = some entry ∧ Outlet w ["store"] "out" t ∧
        Runs (s.load "probe") w (.ok p) w ∧ p = Probe.package ∧
        Runs (runExtract Departure.setup "probe" "out") w (.ok ()) v ∧
        Exported w ["store"] "out" p v ∧
        Runs (openAt "store") v (.ok r) v ∧ r.list = s.list ∧
        ∃ bound v' r', Packaged Departure.setup "store" v "out/program.o" "again:v1" p.config.info
            bound v' r' ∧
          bound.digest = entry.digest ∧ bound.size = entry.size := by
  obtain ⟨replies, s, w, ran, exports⟩ := repackaged_of_history Probe.quiet Probe.standing
    Probe.direct Probe.fresh Probe.opened Probe.clock Departure.steps Departure.small
  have reached := Departure.reached_of_answerAll ran
  obtain ⟨entry, found⟩ := reached.found
  obtain ⟨p, v, r, loaded, extracted, exported, reopened, same, told, again⟩ :=
    exports Departure.setup rfl "probe" entry found "out" _ reached.outlet
  obtain ⟨bound, v', r', packaged, digest, size⟩ :=
    again "out/program.o" "again:v1" "docker.io/library/again:v1" rfl rfl
  exact ⟨replies, s, w, ran, entry, _, p, v, r, found, reached.outlet, loaded,
    (Option.some.inj (told Departure.told)).symm, extracted, exported, reopened, same, bound, v',
    r', packaged, digest, size Departure.told⟩

/-! ## A way through the store -/

namespace Departure

-- what the bytes of the package are does not matter here, nor what their digest is
attribute [local irreducible] Package.configBytes Digest.ofBytes

/-- The path of a directory beside the store that leads through the store, where the index is about
to be written. -/
def detour : String := "store/index.json.tmp/../../out"

/-- The tree when the directories of that path have been made. -/
def detoured (t : FileTree) : FileTree :=
  (t.put ["store", "index.json.tmp"] .directory).put ["out"] .directory

theorem createTree_detour (inside : t.node? ["store"] = some .directory)
    (draft : t.node? ["store", "index.json.tmp"] = none) (out : t.node? ["out"] = none) :
    t.createTree [] detour = (detoured t, .ok ()) := by
  have names : Path.names detour = ["store", "index.json.tmp", "..", "..", "out"] := by decide
  have missing (part : String) (rest : List String) :
      t.makeDirectory [] ("store" :: "index.json.tmp" :: part :: rest) = .error .notFound := by
    have lost : t.follow [] ("store" :: "index.json.tmp" :: part :: rest) = .error .notFound := by
      simp [follow, FileTree.step, node?_root, inside, draft]
    unfold makeDirectory
    rw [lost]
    rfl
  obtain ⟨made, same⟩ : ∃ made, t.put ["store", "index.json.tmp"] .directory = made := ⟨_, rfl⟩
  have first : made.node? ["store", "index.json.tmp"] = some .directory :=
    same ▸ node?_put_self (by simp) _
  have second : made.node? ["store"] = some .directory := by
    rw [← same, node?_put_of_ne (by simp), inside]
  have third : made.node? ["out"] = none := by
    rw [← same, node?_put_of_ne (by simp), out]
  -- the first directory that is missing is made, and then the path leads back from it
  have begun : t.makeTree [] (["store"] ++ ["index.json.tmp"]).reverse = (made, .ok ()) :=
    makeTree_append (makeDirectory_eq_ok.mpr
      ⟨_, by simp [follow, FileTree.step, node?_root, inside], draft, same.symm⟩)
  have here : made.follow [] ["store", "index.json.tmp", ".."] = .ok ["store"] := by
    simp [follow, FileTree.step, node?_root, first, second]
  have above : made.follow [] ["store", "index.json.tmp", "..", ".."] = .ok [] := by
    simp [follow, FileTree.step, node?_root, first, second]
  have beside : made.follow [] ["store", "index.json.tmp", "..", "..", "out"] = .ok ["out"] := by
    simp [follow, FileTree.step, node?_root, first, second]
  have once := makeTree_append_of_there ["store", "index.json.tmp"] (missing ".." []) begun here
    second
  have twice := makeTree_append_of_there ["store", "index.json.tmp", ".."] (missing ".." [".."])
    once above (node?_root _)
  have whole : t.makeTree [] (["store", "index.json.tmp", "..", ".."] ++ ["out"]).reverse =
      (made.put ["out"] .directory, .ok ()) :=
    makeTree_append_of_missing (missing ".." ["..", "out"]) twice
      (makeDirectory_eq_ok.mpr ⟨_, beside, third, rfl⟩)
  unfold createTree detoured
  rw [names, same]
  exact whole

theorem Reached.node?_draft (reached : Reached s w) :
    w.tree.node? ["store", "index.json.tmp"] = none := by
  obtain ⟨shelf, kept⟩ := reached.kept
  exact kept.stocked.bare "index.json.tmp" [] (by decide) (fun same => absurd same (by decide))

theorem Reached.spot_detour (reached : Reached s w) : spot w.working detour = ["out"] := by
  rw [reached.working]
  rfl

theorem Reached.way_detour (reached : Reached s w) :
    route (start w.working detour) (Path.names detour) =
      [[], ["store"], ["store", "index.json.tmp"], ["store"], [], ["out"]] := by
  rw [reached.working]
  rfl

theorem Reached.writable (reached : Reached s w) : Writable w detour (detoured w.tree) := by
  obtain ⟨shelf, kept⟩ := reached.kept
  have begins : start w.working detour = [] := by
    rw [reached.working]
    rfl
  have absent (rest : Location) : w.tree.node? ("out" :: rest) = none :=
    reached.beside _ (by simp) (by simp)
  refine ⟨?made, ?standing, ?free⟩
  case made =>
    rw [reached.working]
    exact createTree_detour kept.stocked.at_home.node reached.node?_draft (absent [])
  case standing => rw [begins, node?_root]
  case free =>
    intro name _
    rw [reached.spot_detour, detoured, node?_put_of_ne (by simp), node?_put_of_ne (by simp),
      List.singleton_append, absent]
    nofun

/-- The world when the package has been exported. -/
def exported (w : World) : World := { w with
  tree := unpacked (detoured w.tree) (spot w.working detour) Probe.package
  output := w.output ++ ("Exported " ++ "probe" ++ " to " ++ detour ++ "\n") }

/-- The export leaves everything in the store as it was but for one directory. -/
theorem Reached.node?_exported (reached : Reached s w) {q : Location} (below : ["store"] <+: q)
    (other : q ≠ ["store", "index.json.tmp"]) :
    (exported w).tree.node? q = w.tree.node? q := by
  obtain ⟨shelf, kept⟩ := reached.kept
  refine reached.writable.node?_unpacked Probe.package (fun member => ?_) fun name _ same => ?_
  · rw [reached.way_detour] at member
    simp only [List.mem_cons, List.not_mem_nil, or_false] at member
    rcases member with rfl | rfl | rfl | rfl | rfl | rfl
    · nofun
    · exact fun none => nomatch none.symm.trans kept.stocked.at_home.node
    · exact absurd rfl other
    · exact fun none => nomatch none.symm.trans kept.stocked.at_home.node
    · nofun
    · exact absurd below (by decide)
  · rw [reached.spot_detour] at same
    exact absurd (same ▸ below) (by simp)

theorem Reached.node?_exported_draft (reached : Reached s w) :
    (exported w).tree.node? ["store", "index.json.tmp"] = some .directory := by
  have made : (detoured w.tree).node? ["store", "index.json.tmp"] = some .directory := by
    rw [detoured, node?_put_of_ne (by simp), node?_put_self (by simp)]
  refine (node?_unpacked_of_ne fun name _ => ?_).trans made
  rw [reached.spot_detour]
  simp

theorem Reached.home_exported (reached : Reached s w) :
    (exported w).tree.Home (exported w).working "store" ["store"] := by
  obtain ⟨shelf, kept⟩ := reached.kept
  have at_home := kept.stocked.at_home
  rw [reached.directory] at at_home
  exact home_of_still at_home fun q => reached.writable.stands_unpacked Probe.package

/-- **Exporting** by that path succeeds. -/
theorem Reached.runs_extract (reached : Reached s w) :
    Runs (runExtract setup "probe" detour) w (.ok ()) (exported w) := by
  obtain ⟨shelf, kept⟩ := reached.kept
  obtain ⟨index, opened, same⟩ := kept.openAt
  have loaded : Runs (s.load "probe") w (.ok Probe.package) w :=
    reached.represents.answers.loads "probe" Probe.package rfl
  rw [← (kept.agree same).load_eq] at loaded
  rw [reached.directory] at opened loaded
  exact runs_runExtract rfl kept.stocked.quiet opened loaded reached.writable

theorem Reached.quiet_exported (reached : Reached s w) : (exported w).Quiet := by
  obtain ⟨shelf, kept⟩ := reached.kept
  exact kept.stocked.quiet

/-- The store can be opened then, and has no entry under a reference that is new. -/
theorem Reached.opened_exported (reached : Reached s w) :
    ∃ index, Runs (openAt "store") (exported w) (.ok { directory := "store", index }) (exported w) ∧
      index.get? "docker.io/library/again:latest" = none := by
  obtain ⟨shelf, kept⟩ := reached.kept
  have filed : Filed (exported w).tree ["store"] s.list ∨
      (exported w).tree.node? (["store"] ++ [indexName]) = none ∧ s.list = [] := by
    unfold Filed
    rw [reached.node?_exported (List.prefix_append _ _) (by decide)]
    exact kept.filed
  obtain ⟨index, read, found⟩ := readIndex_of_list reached.home_exported reached.quiet_exported
    (fun key entry bound => (kept.lodging key entry bound).reference) filed
  refine ⟨index, openAt_of_readIndex reached.home_exported reached.quiet_exported read, ?_⟩
  refine Option.eq_none_iff_forall_ne_some.mpr fun entry bound => ?_
  have there := ((found _ entry).mp bound).1
  rw [reached.represents.indexed.absent "docker.io/library/again:latest" rfl] at there
  cases there

/-- A package that is there already is not written again. -/
theorem Reached.shelved_exported (reached : Reached s w) :
    Runs (shelve "store" Probe.package) (exported w) (.ok ()) (exported w) := by
  have same (q : Location) (below : ["store"] ++ [shelfName] <+: q) :
      (exported w).tree.node? q = w.tree.node? q := by
    refine reached.node?_exported ((List.prefix_append _ _).trans below) ?_
    rintro rfl
    exact absurd below (by decide)
  have held : (steps.foldl Bindings.afterStep Bindings.none).Holds Probe.package :=
    ⟨"docker.io/library/probe:latest", rfl⟩
  have lies := (lies_congr same).mpr (reached.represents.stocked.lies held)
  have complete := lies.isComplete reached.home_exported Probe.package.isName_folder
  exact (Runs.lift complete).bind (Runs.pure _ _)

/-- The index cannot be written where a directory stands. -/
theorem Reached.blocked (reached : Reached s w) (index : Dictionary StoredPackage)
    (readings : Nat) : Runs (writeIndex { directory := "store", index })
      { exported w with readings } (.error (.io .isDirectory)) { exported w with readings } := by
  let r : PackageStore := { directory := "store", index }
  have refused : Runs (Files.attempt (.write (Path.temporary (indexPath "store"))
      (indexCodec.encodeLines r.list).toUTF8)) { exported w with readings } (.error .isDirectory)
      { exported w with readings } := by
    refine Runs.attempt reached.quiet_exported ?_
    rw [temporary_indexPath, FileTree.call, write_of_directory
      (reached.home_exported.locate isName_draft) reached.node?_exported_draft]
    rfl
  exact (refused.explain_error Error.io).bind_error _

/-- **Packaging** fails then. -/
theorem Reached.runs_package (reached : Reached s w) :
    ∃ v, Runs (runPackage setup (Path.join detour Package.programName) "again"
      Probe.package.config.info) (exported w) (.error (.error (.io .isDirectory))) v := by
  obtain ⟨index, opened, absent⟩ := reached.opened_exported
  let r : PackageStore := { directory := "store", index }
  have canonical : Reference.canonical "again" = .ok "docker.io/library/again:latest" := rfl
  have made := operates_newEntry (s := r) canonical reached.shelved_exported
  let again : World := { exported w with readings := (exported w).readings + 1 }
  let entry := entryOf "store" "docker.io/library/again:latest" Probe.package
    ((exported w).clock (exported w).readings)
  have aligned : Runs (align { r with index := r.index.insert entry.reference entry }
      (r.index.get? entry.reference)) again (.error (.io .isDirectory)) again := by
    rw [show r.index.get? entry.reference = none from absent]
    exact reached.blocked _ _
  have failed : Operates (PackageStore.put "again" Probe.package) r (exported w)
      (.error (.io .isDirectory)) { r with index := r.index.insert entry.reference entry }
      again := by
    rw [put_eq]
    exact made.bind ((operates_bind entry aligned).bind_error _)
  have read : (exported w).tree.read (exported w).working (Path.join detour Package.programName) =
      .ok Probe.package.program := reached.writable.read_program Probe.package
  have place : setup.storePath (exported w).home = "store" := rfl
  exact ⟨again, runs_runPackage_of_error place reached.quiet_exported read opened failed⟩

end Departure

/-- **Obstruction.** A package is exported by a path that leads through the store to a directory
outside. This succeeds, and what is in the files is right. But now there is a directory in the
store that was not there, and the program cannot be packaged again. -/
theorem obstructed_by_extract :
    ∃ replies s w entry v v', Runs (openAt "store") Probe.before (.ok Probe.store) Probe.world ∧
      Operates (answerAll Departure.steps) Probe.store Probe.world (.ok replies) s w ∧
      s.get? "probe" = some entry ∧ Runs (s.load "probe") w (.ok Probe.package) w ∧
      ¬ ["store"] <+: spot w.working Departure.detour ∧
      Runs (runExtract Departure.setup "probe" Departure.detour) w (.ok ()) v ∧
      v.tree.read v.working (Path.join Departure.detour Package.programName) =
        .ok Probe.package.program ∧
      w.tree.node? ["store", "index.json.tmp"] = none ∧
      v.tree.node? ["store", "index.json.tmp"] = some .directory ∧
      Runs (runPackage Departure.setup (Path.join Departure.detour Package.programName) "again"
        Probe.package.config.info) v (.error (.error (.io .isDirectory))) v' := by
  obtain ⟨replies, s, w, -, ran, -⟩ := Probe.kept.answerAll_follows (P := fun _ => True)
    Probe.clock Departure.small fun _ _ _ _ => trivial
  have reached := Departure.reached_of_answerAll ran
  obtain ⟨entry, found⟩ := reached.found
  obtain ⟨v', failed⟩ := reached.runs_package
  refine ⟨replies, s, w, entry, _, v', Probe.opened, ran, found,
    reached.represents.answers.loads "probe" Probe.package rfl, ?_, reached.runs_extract,
    reached.writable.read_program _, reached.node?_draft, reached.node?_exported_draft, failed⟩
  rw [reached.spot_detour]
  decide

end BpfDepot.Command
