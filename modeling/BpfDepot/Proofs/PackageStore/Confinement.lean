import BpfDepot.Proofs.FileTree.Confined
import BpfDepot.Proofs.PackageStore.Opening
import BpfDepot.Proofs.PackageStore.Refinement

/-! # What a store touches

A store writes in its own directory only. But it removes the directories of entries wherever the
index says that they are, so what stands outside of the store can be removed if the index that
was read names it (`PackageStore.exposed`). This is all: outside of its directory a store makes
nothing and alters nothing, and only what is at a path that the index named when the store was
opened, or below it, can be gone (`PackageStore.confined_of_performAll`).

What stands at the paths of entries is followed through all operations: an entry has the path
of a directory in the store, or that of an entry of the index that was read
(`PackageStore.Contained`).
-/

namespace BpfDepot.PackageStore

open FileTree World

-- what the bytes of a package are does not matter here, nor what their digest is
attribute [local irreducible] Package.configBytes Digest.ofBytes

variable {ε α : Type} {home : Location} {lost : Location → Prop} {before : FileTree}
  {working : Location} {directory path name : String} {p : Package} {s s' : PackageStore}
  {w w' : World}

/-! ## Paths of a store -/

/-- A path leads to a place or below it, and outside of the place only through directories that
were there before. -/
structure Around (home : Location) (before : FileTree) (working : Location) (path : String) :
    Prop where
  inside : home <+: spot working path
  way : ∀ p ∈ route (start working path) (Path.names path),
    home <+: p ∨ before.node? p = some .directory

/-- Removing what is at a path removes nothing outside of a place but what may be lost. -/
def Clears (home : Location) (lost : Location → Prop) (working : Location) (path : String) : Prop :=
  ∀ p, spot working path <+: p → home <+: p ∨ lost p

namespace Around

theorem join (around : Around home before working directory) (plain : Path.IsName name) :
    Around home before working (Path.join directory name) := by
  have inside : home <+: spot working (Path.join directory name) := by
    rw [spot_join plain]
    exact around.inside.trans (List.prefix_append _ _)
  refine ⟨inside, fun p member => ?_⟩
  rw [start_join plain, Path.names_join plain, mem_route_append] at member
  rcases member with member | rfl
  · exact around.way p member
  · rw [spot_join plain] at inside
    rw [step_of_isName plain]
    exact Or.inl inside

theorem clears (around : Around home before working path) : Clears home lost working path :=
  fun _ below => Or.inl (around.inside.trans below)

end Around

/-! ## What steps change -/

/-- What steps change outside of a place is confined to what may be lost. -/
abbrev Confining (home : Location) (lost : Location → Prop) (before : FileTree)
    (working : Location) (step : ExceptT ε WorldM α) : Prop :=
  Keeps (fun tree here => here = working ∧ Confined home lost before tree) step

theorem confining_attempt {request : FileCall α} (stays : Stays home lost before working request) :
    Confining home lost before working (Files.attempt request) := by
  refine Keeps.attempt ?_ ?_
  · rintro t _ ⟨rfl, confined⟩
    exact ⟨rfl, confined.call stays⟩
  · rintro t _ steps ⟨rfl, confined⟩
    exact ⟨rfl, confined.brokenOff steps stays⟩

theorem confining_clear (clears : Clears home lost working path) :
    Confining home lost before working (clear path) := by
  refine (Keeps.isPresent path).bind fun present => ?_
  split
  · exact confining_attempt (.removeTree clears)
  · exact Keeps.pure _

/-- Everything that is done to put a package in its directory is done in the store. -/
theorem confining_shelve (around : Around home before working directory) :
    Confining home lost before working (shelve directory p) := by
  have shelf := around.join isName_shelf
  have target : Around home before working (packagePath directory p.digest) :=
    shelf.join p.isName_folder
  have draft := shelf.join p.isName_temporary
  have wrote : Confining home lost before working
      (writePackage (packagePath directory p.digest) p) := by
    unfold writePackage
    rw [temporary_packagePath]
    refine (confining_clear draft.clears).bind fun _ => (confining_clear target.clears).bind fun _ =>
      (confining_attempt (.createTree draft.way)).bind fun _ => ?_
    exact (confining_attempt (.write _ (draft.join isName_program).inside)).bind fun _ =>
      (confining_attempt (.write _ (draft.join isName_config).inside)).bind fun _ =>
        confining_attempt (.rename draft.inside target.inside)
  refine (Keeps.lift fun w => ?_).bind fun complete => ?_
  · rw [isComplete_eq]
    exact ⟨rfl, rfl⟩
  · split
    · exact wrote.explain _
    · exact Keeps.pure _

theorem confining_writeIndex (around : Around home before working s.directory) :
    Confining home lost before working (writeIndex s) := by
  have draft := around.join isName_draft
  unfold writeIndex
  simp only [temporary_indexPath]
  exact ((confining_attempt (.write _ draft.inside)).explain _).bind fun _ =>
    (confining_attempt (.rename draft.inside (around.join isName_index).inside)).explain _

theorem confining_align (around : Around home before working s.directory)
    {replaced : Option StoredPackage}
    (clears : ∀ old, replaced = some old → Clears home lost working old.path) :
    Confining home lost before working (align s replaced) := by
  cases replaced with
  | none => exact confining_writeIndex around
  | some old =>
      have cleared : Confining home lost before working (clearUnused s old) := by
        unfold clearUnused
        split
        · exact (confining_clear (clears old rfl)).explain _
        · exact Keeps.pure _
      exact cleared.bind fun _ => confining_writeIndex around

/-! ## What operations change -/

/-- So far what has changed outside of a place is confined to what may be lost, and so is what a
handle can change. -/
structure Contained (home : Location) (lost : Location → Prop) (before : FileTree)
    (s : PackageStore) (w : World) : Prop where
  around : Around home before w.working s.directory
  /-- The directories of entries are in the place or may be lost. -/
  clears : ∀ key entry, s.index.get? key = some entry → Clears home lost w.working entry.path
  confined : Confined home lost before w.tree

namespace Contained

theorem onward (contained : Contained home lost before s w)
    {step : ExceptT ε WorldM α} {result : Except ε α}
    (confining : Confining home lost before w.working step) (runs : Runs step w result w') :
    w'.working = w.working ∧ Contained home lost before s w' := by
  obtain ⟨working, confined⟩ := confining _ _ _ ⟨rfl, contained.confined⟩ runs
  refine ⟨working, ?_, ?_, confined⟩
  · rw [working]
    exact contained.around
  · rw [working]
    exact contained.clears

/-- What is not seen of a world does not matter. -/
theorem of_tree_eq (contained : Contained home lost before s w) (tree : w'.tree = w.tree)
    (working : w'.working = w.working) : Contained home lost before s w' := by
  constructor
  · rw [working]
    exact contained.around
  · rw [working]
    exact contained.clears
  · rw [tree]
    exact contained.confined

/-- A handle takes an index whose entries are no worse. -/
theorem of_index (contained : Contained home lost before s w) {index : Dictionary StoredPackage}
    (clears : ∀ key entry, index.get? key = some entry → Clears home lost w.working entry.path) :
    Contained home lost before { s with index } w :=
  ⟨contained.around, clears, contained.confined⟩

theorem insert (contained : Contained home lost before s w) {entry : StoredPackage}
    (clears : Clears home lost w.working entry.path) :
    Contained home lost before { s with index := (Change.binding s entry).index } w := by
  refine contained.of_index fun key found bound => ?_
  by_cases same : key = entry.reference
  · subst same
    rw [Change.binding, Dictionary.get?_insert_self] at bound
    exact Option.some.inj bound ▸ clears
  · rw [Change.binding, Dictionary.get?_insert_of_ne _ _ same] at bound
    exact contained.clears key found bound

theorem erase (contained : Contained home lost before s w) (key : String) :
    Contained home lost before { s with index := s.index.erase key } w := by
  refine contained.of_index fun other found bound => ?_
  by_cases same : other = key
  · rw [same, Dictionary.get?_erase_self] at bound
    cases bound
  · rw [Dictionary.get?_erase_of_ne _ same] at bound
    exact contained.clears other found bound

/-- **Preparing a change** is confined, and so is what the change brings and replaces. -/
theorem prepare (contained : Contained home lost before s w) {operation : Operation}
    {result : Except Error Change} (prepared : Operates operation.prepare s w result s' w') :
    w'.working = w.working ∧ Contained home lost before s w' ∧ ∀ change, result = .ok change →
      Contained home lost before { s with index := change.index } w' ∧
        ∀ old, change.replaced = some old → Clears home lost w'.working old.path := by
  cases operation with
  | put text p =>
      obtain ⟨outcome, made, rfl⟩ :=
        Operation.of_binding (fun _ _ _ _ _ made => (newEntry_cases made).1) prepared
      rcases (newEntry_cases made).2 with
        ⟨error, rfl, rfl⟩ | ⟨key, shelved, v, -, runs, tree, same, rfl⟩
      · exact ⟨rfl, contained, nofun⟩
      · obtain ⟨working, after⟩ := contained.onward (confining_shelve contained.around) runs
        have now := after.of_tree_eq tree same
        refine ⟨same.trans working, now, ?_⟩
        cases shelved with
        | error error => exact nofun
        | ok _ =>
            rintro _ ⟨⟩
            have folder : Around home before w'.working (packagePath s.directory p.digest) :=
              (now.around.join isName_shelf).join p.isName_folder
            have clears : Clears home lost w'.working
                (entryOf s.directory key p (v.clock v.readings)).path := folder.clears
            exact ⟨now.insert clears, fun old replaced => now.clears _ old replaced⟩
  | tag source target =>
      obtain ⟨outcome, made, rfl⟩ :=
        Operation.of_binding (fun _ _ _ _ _ made => (copyEntry_cases made).1) prepared
      obtain ⟨-, tree, working, -⟩ := copyEntry_cases made
      have now := contained.of_tree_eq tree working
      refine ⟨working, now, ?_⟩
      cases outcome with
      | error error => exact nofun
      | ok entry =>
          rintro _ ⟨⟩
          -- a copy has the path of its source, which is one that the index had already
          obtain ⟨key, found, bound, path⟩ := path_of_copyEntry made
          refine ⟨now.insert ?_, fun old replaced => now.clears _ old replaced⟩
          rw [path]
          exact now.clears key found bound
  | remove text =>
      obtain ⟨rfl, outcome⟩ := Operation.prepare_remove_cases prepared
      refine ⟨rfl, contained, fun change same => ?_⟩
      obtain ⟨key, entry, -, bound, rfl⟩ := outcome change same
      refine ⟨contained.erase key, ?_⟩
      rintro _ ⟨⟩
      exact contained.clears key entry bound

/-- **Operations** are confined, whatever becomes of them. -/
theorem perform (contained : Contained home lost before s w) {operation : Operation}
    {result : Except Error Unit} (performed : Operates operation.perform s w result s' w') :
    w'.working = w.working ∧ Contained home lost before s' w' := by
  rw [Operation.perform_eq] at performed
  rcases Operates.bind_cases performed with ⟨error, early, -⟩ | ⟨change, t, v, prepared, late⟩
  · obtain rfl := operation.steady_prepare _ _ _ _ _ early
    obtain ⟨working, after, -⟩ := contained.prepare early
    exact ⟨working, after⟩
  · obtain rfl := operation.steady_prepare _ _ _ _ _ prepared
    obtain ⟨working, -, changed⟩ := contained.prepare prepared
    obtain ⟨now, clears⟩ := changed change rfl
    have committed {outcome : Except Error Unit} {t' : PackageStore} {u : World}
        (runs : Operates (commit change.index change.replaced) t v outcome t' u) :
        u.working = w.working ∧ Contained home lost before t' u := by
      obtain ⟨rfl, aligned⟩ := align_of_commit runs
      obtain ⟨still, after⟩ := now.onward (confining_align now.around clears) aligned
      exact ⟨still.trans working, after⟩
    rcases Operates.bind_cases late with ⟨error, broken, -⟩ | ⟨_, t', u, done, told⟩
    · exact committed broken
    · obtain ⟨events, tells⟩ := operation.operates_tell change.bound u
      obtain ⟨-, rfl, rfl⟩ := (tells t').unique told
      obtain ⟨still, after⟩ := committed done
      exact ⟨still, after.of_tree_eq rfl rfl⟩

/-- **Runs** are confined. -/
theorem performAll (contained : Contained home lost before s w) {operations : List Operation}
    {results : List (Except Error Unit)}
    (ran : (Operation.performAll operations).run s w = ((results, s'), w')) :
    Contained home lost before s' w' := by
  induction operations generalizing s w results with
  | nil =>
      obtain ⟨⟨-, rfl⟩, rfl⟩ := Prod.mk.inj ran |>.imp_left Prod.mk.inj
      exact contained
  | cons operation rest ih =>
      obtain ⟨result, t, v, stepped⟩ := Operates.total operation.perform s w
      obtain ⟨others, t', v', further⟩ : ∃ others t' v',
          (Operation.performAll rest).run t v = ((others, t'), v') := ⟨_, _, _, rfl⟩
      rw [performAll_cons stepped further] at ran
      obtain ⟨⟨-, rfl⟩, rfl⟩ := Prod.mk.inj ran |>.imp_left Prod.mk.inj
      exact ih (contained.perform stepped).2 further

end Contained

/-! ## The store that is opened -/

theorem keeps_readIndex {I : FileTree → Location → Prop} (directory : String) :
    Keeps I (readIndex directory) := by
  have text (path : String) : Keeps I (Files.readText path) := by
    refine (Keeps.read path).bind fun bytes => ?_
    split
    · exact Keeps.pure _
    · exact Keeps.throw _
  refine (Keeps.isPresent _).bind fun present => ?_
  split
  · refine ((text _).explain _).bind fun text => ?_
    split
    · exact Keeps.throw _
    · exact (Keeps.filterM (fun entry => Keeps.isPresent _) _).bind fun _ => Keeps.pure _
  · exact Keeps.pure _

/-- When a store is opened there are directories on the way to its directory. -/
theorem around_of_openAt {start : World} (opened : Runs (openAt directory) start (.ok s) w) :
    s.directory = directory ∧
      Around (spot w.working directory) w.tree w.working directory := by
  obtain ⟨_, v, made, further⟩ := Runs.of_bind_ok opened
  obtain ⟨index, u, read, last⟩ := Runs.of_bind_ok further
  obtain ⟨same, rfl⟩ := (Runs.pure (PackageStore.mk directory index) u).unique last
  obtain rfl := Except.ok.inj same
  obtain ⟨called, working⟩ := Runs.of_attempt_ok made.of_explain_ok
  obtain ⟨tree, still⟩ := keeps_readIndex (I := fun tree here => tree = v.tree ∧ here = v.working)
    directory _ _ _ ⟨rfl, rfl⟩ read
  refine ⟨rfl, List.prefix_rfl, fun p member => ?_⟩
  change start.tree.createTree start.working directory = _ at called
  rw [tree, still, working]
  rw [still, working] at member
  unfold createTree at called
  unfold spot
  cases back : (Path.names directory).reverse with
  | nil =>
      rw [List.reverse_eq_nil_iff] at back
      rw [back] at member ⊢
      obtain rfl := List.mem_singleton.mp member
      exact Or.inl List.prefix_rfl
  | cons last before =>
      rw [back] at called
      have leads := leads_makeTree_cons (congrArg Prod.snd called)
      rw [called, ← List.reverse_cons, ← back, List.reverse_reverse] at leads
      exact Or.inr (leads p member)

/-- **Confinement.** Whatever index a store is opened with, and whatever operations are carried
out then, also if they fail or are broken off: outside of the directory of the store nothing is
made or altered, and only what is at the path that the index named, or below it, can be
gone. So nothing outside changes if all these paths lead into the directory. -/
theorem confined_of_performAll {start : World} {operations : List Operation}
    {results : List (Except Error Unit)} (opened : Runs (openAt directory) start (.ok s) w)
    (ran : (Operation.performAll operations).run s w = ((results, s'), w')) :
    (∀ place, ¬ spot w.working directory <+: place →
      w'.tree.node? place = w.tree.node? place ∨ w'.tree.node? place = none ∧
        ∃ key entry, s.index.get? key = some entry ∧ spot w.working entry.path <+: place) ∧
    ((∀ key entry, s.index.get? key = some entry →
        spot w.working directory <+: spot w.working entry.path) →
      ∀ place, ¬ spot w.working directory <+: place →
        w'.tree.node? place = w.tree.node? place) := by
  obtain ⟨rfl, around⟩ := around_of_openAt opened
  let named (place : Location) : Prop :=
    ∃ key entry, s.index.get? key = some entry ∧ spot w.working entry.path <+: place
  have contained : Contained (spot w.working s.directory) named w.tree s w := by
    refine ⟨around, fun key entry found p below => Or.inr ⟨key, entry, found, below⟩, ?_⟩
    exact Confined.refl _ _ _
  have confined := (contained.performAll ran).confined
  refine ⟨confined, fun inside place outside => ?_⟩
  rcases confined place outside with same | ⟨-, key, entry, found, below⟩
  · exact same
  · exact absurd ((inside key entry found).trans below) outside

/-! ## A store whose index names a directory beside it -/

namespace Exposed

/-- The only entry, whose path leads out of the store. -/
def entry : StoredPackage where
  reference := "h.io/a:v"
  digest := "sha256:d"
  size := 13
  info := "x"
  created := ⟨⟨2026, 1, 1⟩, 0, 0, 0, 0⟩
  path := "v"

/-- The index in its file. -/
def text : String :=
  "\x7b\"packages\":[\x7b\"reference\":\"h.io/a:v\",\"digest\":\"sha256:d\",\"size_bytes\":13," ++
    "\"info\":\"x\",\"created_at\":\"2026-01-01T00:00:00Z\",\"path\":\"v\"\x7d]\x7d"

/-- The directory of the store. -/
def around : List (Location × Node) :=
  [(["s"], .directory), (["s", "index.json"], .file text.toUTF8)]

/-- The world around the store, with a directory beside it. -/
def world : World where
  tree := ⟨around ++ [(["v"], .directory)]⟩
  clock := fun _ => ⟨⟨2026, 1, 1⟩, 0, 0, 0, 0⟩

/-- The handle. -/
def store : PackageStore := { directory := "s", index := indexOf world [entry] }

/-- The world when the directory has been removed. -/
def cleared : World := { world with tree := ⟨around⟩ }

theorem opened : Runs (openAt "s") world (.ok store) world := by
  have at_home : world.tree.Home world.working "s" ["s"] :=
    Home.of_isName ⟨by decide, by decide, by decide, by decide⟩ rfl rfl
  refine openAt_of_filed at_home rfl ⟨text.toUTF8, text, rfl, dif_pos text.isValidUTF8, ?_⟩
  decide +kernel

theorem removeTree_path : world.tree.removeTree [] entry.path = .ok ⟨around⟩ := by
  have located : world.tree.locate [] entry.path = .ok ["v"] := rfl
  have inside : (world.tree.under ["v"]).map Prod.fst = [["v"]] := rfl
  have order : world.tree.removalOrder [] entry.path = .ok [["v"]] := by
    unfold removalOrder
    rw [located]
    change (Except.ok _ : Except FileFault _) = _
    rw [inside, List.mergeSort_singleton]
  unfold removeTree
  rw [order]
  rfl

/-- Removing the entry removes the directory beside the store. -/
theorem operates_remove : ∃ s w, Operates (Operation.remove "h.io/a:v").perform store world
    (.ok ()) s w ∧ w.tree.node? ["v"] = none := by
  have prepared : Operates (Operation.remove "h.io/a:v").prepare store world
      (.ok { index := {}, replaced := some entry, bound := none }) store world := rfl
  have removed : Runs (Files.attempt (.removeTree entry.path)) world (.ok ()) cleared := by
    refine Runs.attempt rfl ?_
    change world.tree.changed (world.tree.removeTree [] entry.path) = _
    rw [removeTree_path]
    rfl
  have gone : Runs (clear entry.path) world (.ok ()) cleared := (Runs.lift rfl).bind removed
  obtain ⟨w, written, absent⟩ : ∃ w, Runs (writeIndex { store with index := {} }) cleared
      (.ok ()) w ∧ w.tree.node? ["v"] = none := ⟨_, rfl, rfl⟩
  obtain ⟨events, performed⟩ := Operation.perform_of_ok prepared ((gone.explain _).bind written)
  exact ⟨_, _, performed, absent⟩

end Exposed

/-- A store removes a directory beside its own that the index names, and nothing else outside. -/
theorem confined_of_performAll_exposed :
    Runs (openAt "s") Exposed.world (.ok Exposed.store) Exposed.world ∧
    ∃ results s w, (Operation.performAll [.remove "h.io/a:v"]).run Exposed.store Exposed.world =
        ((results, s), w) ∧
      ∀ place, ¬ spot Exposed.world.working "s" <+: place →
        w.tree.node? place = Exposed.world.tree.node? place ∨ w.tree.node? place = none ∧
          ∃ key entry, Exposed.store.index.get? key = some entry ∧
            spot Exposed.world.working entry.path <+: place := by
  obtain ⟨s, w, performed, -⟩ := Exposed.operates_remove
  have done : (Operation.performAll []).run s w = (([], s), w) := rfl
  have ran := performAll_cons performed done
  exact ⟨Exposed.opened, _, s, w, ran, (confined_of_performAll Exposed.opened ran).1⟩

/-- **Removal outside.** A store is opened and one of its entries is removed, and then a directory
outside of the store is gone. -/
theorem exposed : ∃ directory start s w operation s' w' place,
    Runs (openAt directory) start (.ok s) w ∧
      Operates (Operation.perform operation) s w (.ok ()) s' w' ∧
      ¬ spot w.working directory <+: place ∧
      w.tree.node? place = some .directory ∧ w'.tree.node? place = none := by
  obtain ⟨s, w, performed, absent⟩ := Exposed.operates_remove
  refine ⟨"s", _, _, _, _, s, w, ["v"], Exposed.opened, performed, ?_, rfl, absent⟩
  have place : spot Exposed.world.working "s" = ["s"] := rfl
  rw [place]
  decide

end BpfDepot.PackageStore
