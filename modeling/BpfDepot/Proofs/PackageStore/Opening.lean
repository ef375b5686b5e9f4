import BpfDepot.Proofs.FileTree.Changes
import BpfDepot.Proofs.Instant
import BpfDepot.Proofs.PackageStore.Shelf

/-! # Opening a store

Opening a store makes its directory and reads the index. In a directory that is missing
or has nothing in it the index is empty (`PackageStore.openAt_of_bare`). Where there is a
file of the index, the index has the entries of the file whose directories are there
(`PackageStore.openAt_of_filed`).

That a store can be opened at all is seen in a world in which there is nothing
(`PackageStore.Probe.opened`); what is proved of stores that are opened is tried out there.
-/

namespace BpfDepot.PackageStore

open FileTree World

theorem readIndex_of_missing {directory : String} {w : World}
    (missing : w.tree.kind? w.working (indexPath directory) = none) :
    Runs (readIndex directory) w (.ok {}) w := by
  refine (Runs.lift (isPresent_eq _ w)).bind ?_
  rw [missing]
  exact Runs.pure _ _

/-- When the directory of a store has been made, it is there, and nothing has changed
elsewhere than on the way to it. -/
theorem home_of_createTree {t made : FileTree} {working : Location} {directory : String}
    (standing : t.node? working = some .directory) (direct : Direct working directory)
    (bare : t.Bare (spot working directory))
    (created : t.createTree working directory = (made, .ok ())) :
    made.Home working directory (spot working directory) ∧ made.Bare (spot working directory) := by
  have root : t.node? (start working directory) = some .directory := by
    unfold start
    split
    · exact node?_root t
    · exact standing
  obtain ⟨reached, same⟩ := of_createTree_ok root created
  refine ⟨⟨reached, rfl, direct⟩, fun p below other => ?_⟩
  rw [← bare p below other]
  exact same p fun member => other (direct p member below)

/-- A store that is opened where nothing stands below the place of its directory has no
entries, and nothing stands below the place then either. -/
theorem bare_of_openAt {directory : String} {before w : World} {s : PackageStore}
    (opened : Runs (openAt directory) before (.ok s) w) (quiet : before.Quiet)
    (standing : before.tree.node? before.working = some .directory)
    (direct : Direct before.working directory)
    (fresh : before.tree.Bare (spot before.working directory)) :
    s = { directory, index := {} } ∧ w.Quiet ∧
      w.tree.Home w.working directory (spot before.working directory) ∧
      w.tree.Bare (spot before.working directory) := by
  rcases Runs.bind_cases opened with ⟨fault, -, same⟩ | ⟨_, v, made, further⟩
  · cases same
  obtain ⟨same, rfl⟩ := (Runs.attempt quiet rfl).unique made.of_explain_ok
  have created : before.tree.createTree before.working directory =
      ((before.tree.createTree before.working directory).1, .ok ()) := Prod.ext rfl same.symm
  obtain ⟨at_home, bare⟩ := home_of_createTree standing direct fresh created
  have missing := (kind?_join at_home isName_index).trans
    (congrArg _ (bare _ (List.prefix_append _ _) (by simp)))
  obtain ⟨same, rfl⟩ := (Runs.pure (PackageStore.mk directory {}) _).unique
    ((readIndex_of_missing missing).rest further)
  exact ⟨Except.ok.inj same, quiet, at_home, bare⟩

/-- **Opening.** A store that is opened where nothing stands below the place of its
directory has no entries, and its world is stocked with nothing. -/
theorem openAt_of_bare {directory : String} {before w : World} {s : PackageStore}
    (opened : Runs (openAt directory) before (.ok s) w) (quiet : before.Quiet)
    (standing : before.tree.node? before.working = some .directory)
    (direct : Direct before.working directory)
    (fresh : before.tree.Bare (spot before.working directory)) :
    s = { directory, index := {} } ∧
      Stocked (fun _ => False) directory (spot before.working directory) w := by
  obtain ⟨same, still, at_home, bare⟩ := bare_of_openAt opened quiet standing direct fresh
  have below (first : String) (rest : Location) :
      w.tree.node? (spot before.working directory ++ first :: rest) = none :=
    bare _ (List.prefix_append _ _) (by simp)
  refine ⟨same, ?_⟩
  constructor
  · exact still
  · exact at_home
  · exact fun _ held => held.elim
  · exact fun name _ rest => below _ _
  · exact Or.inr ⟨below _ _, fun _ held => held⟩
  · intro node there
    rw [below] at there
    cases there
  · exact fun first rest _ _ => below _ _

namespace Probe

/-- A package. -/
def package : Package := { program := ⟨#[127, 69, 76, 70]⟩, config := { info := "probe" } }

/-- A world in which there is nothing. -/
def before : World := { clock := fun _ => ⟨⟨2024, 1, 1⟩, 0, 0, 0, 0⟩ }

/-- The handle on a store that is opened there, and the world then. -/
def store : PackageStore := { directory := "store", index := {} }

def world : World := { before with tree := ⟨[(["store"], .directory)]⟩ }

theorem opened : Runs (openAt "store") before (.ok store) world := rfl

theorem quiet : before.Quiet := rfl

theorem standing : before.tree.node? before.working = some .directory := rfl

theorem direct : Direct before.working "store" := direct_of_onward (by decide) _

theorem fresh : before.tree.Bare (spot before.working "store") := bare_of_empty _

theorem clock : ∀ i, (world.clock i).Valid := by
  have valid : (⟨⟨2024, 1, 1⟩, 0, 0, 0, 0⟩ : Instant).Valid :=
    ⟨by decide, by decide, by decide, by decide, Or.inl (by decide)⟩
  exact fun _ => valid

/-- The package is small. -/
theorem small {ps : List Package} (only : ∀ p ∈ ps, p = package) : ∀ p ∈ ps, p.size < 2 ^ 64 := by
  intro p member
  rw [only p member]
  decide

end Probe

/-! ## Reading the index -/

variable {directory : String} {home : Location} {w : World} {entries : List StoredPackage}

/-- The file of the index holds some entries. -/
def Filed (t : FileTree) (home : Location) (entries : List StoredPackage) : Prop :=
  ∃ bytes text, t.node? (home ++ [indexName]) = some (.file bytes) ∧
    String.fromUTF8? bytes = some text ∧ indexCodec.decodeText text = .ok entries

/-- The entries of which the directories are there. -/
def present (w : World) (entries : List StoredPackage) : List StoredPackage :=
  entries.filter fun entry => (w.tree.kind? w.working entry.path).isSome

/-- The index that is read when the file holds some entries. -/
def indexOf (w : World) (entries : List StoredPackage) : Dictionary StoredPackage :=
  .ofList ((present w entries).map fun entry => (entry.reference, entry))

/-- A list is filtered by questions that do not change the world. -/
theorem runs_filterM {ε α : Type} {test : α → ExceptT ε WorldM Bool} {answer : α → Bool}
    (told : ∀ a, Runs (test a) w (.ok (answer a)) w) (as : List α) :
    Runs (as.filterM test) w (.ok (as.filter answer)) w := by
  have aux (as passed : List α) :
      Runs (as.filterAuxM test passed) w (.ok ((as.filter answer).reverse ++ passed)) w := by
    induction as generalizing passed with
    | nil => exact Runs.pure _ _
    | cons a as ih =>
        refine (told a).bind ?_
        cases yes : answer a with
        | true =>
            rw [List.filter_cons_of_pos yes, List.reverse_cons, List.append_assoc]
            exact ih _
        | false =>
            rw [List.filter_cons_of_neg (by simp [yes])]
            exact ih _
  have whole : Runs (as.filterM test) w
      (.ok ((as.filter answer).reverse ++ []).reverse) w := (aux as []).bind (Runs.pure _ _)
  rwa [List.append_nil, List.reverse_reverse] at whole

/-- The text of a file is read if the bytes of the file are one. -/
theorem readText_of_read {path text : String} {bytes : ByteArray} (quiet : w.Quiet)
    (read : w.tree.read w.working path = .ok bytes) (decoded : String.fromUTF8? bytes = some text) :
    Runs (Files.readText path) w (.ok text) w := by
  have called : w.tree.call w.working (.read path) = (w.tree, .ok bytes) := by
    rw [FileTree.call, read]
  refine (Runs.attempt quiet called).bind ?_
  rw [decoded]
  exact Runs.pure _ _

/-- **Reading the index.** The entries of its file are read, but for those of which the
directories are gone. -/
theorem readIndex_of_filed (at_home : w.tree.Home w.working directory home) (quiet : w.Quiet)
    (filed : Filed w.tree home entries) :
    Runs (readIndex directory) w (.ok (indexOf w entries)) w := by
  obtain ⟨bytes, text, file, decoded, parsed⟩ := filed
  have read : w.tree.read w.working (indexPath directory) = .ok bytes :=
    (read_join_iff isName_index).mpr ⟨at_home.reached, by rwa [at_home.ends]⟩
  have there : w.tree.kind? w.working (indexPath directory) = some .file :=
    (kind?_join at_home isName_index).trans (congrArg _ file)
  have explained := (readText_of_read quiet read decoded).explain fun fault =>
    .store ("Failed to read package index " ++ indexPath directory ++ ": " ++ fault.message)
  have asked (entry : StoredPackage) :
      Runs (liftM (Files.isPresent entry.path : WorldM Bool) : ExceptT Error WorldM Bool) w
        (.ok (w.tree.kind? w.working entry.path).isSome) w := Runs.lift (isPresent_eq _ w)
  refine (Runs.lift (isPresent_eq _ w)).bind ?_
  rw [there]
  refine explained.bind ?_
  rw [parsed]
  exact (runs_filterM asked entries).bind (Runs.pure _ _)

/-- A store whose directory is there is opened when its index has been read. -/
theorem openAt_of_readIndex {index : Dictionary StoredPackage}
    (at_home : w.tree.Home w.working directory home) (quiet : w.Quiet)
    (read : Runs (readIndex directory) w (.ok index) w) :
    Runs (openAt directory) w (.ok { directory, index }) w := by
  have called : w.tree.call w.working (.createTree directory) = (w.tree, .ok ()) :=
    createTree_of_reached at_home.reached
  exact ((Runs.attempt quiet called).explain _).bind (read.bind (Runs.pure _ _))

/-- **Reopening.** A store of which the index is in its file is opened with it, and nothing
changes. -/
theorem openAt_of_filed (at_home : w.tree.Home w.working directory home) (quiet : w.Quiet)
    (filed : Filed w.tree home entries) :
    Runs (openAt directory) w (.ok { directory, index := indexOf w entries }) w :=
  openAt_of_readIndex at_home quiet (readIndex_of_filed at_home quiet filed)

/-- An entry of the file that is the only one with its reference is found under it if its
directory is there. -/
theorem get?_indexOf {entry : StoredPackage} (member : entry ∈ entries)
    (there : (w.tree.kind? w.working entry.path).isSome = true)
    (only : ∀ other ∈ entries, other.reference = entry.reference → other = entry) :
    (indexOf w entries).get? entry.reference = some entry := by
  refine Dictionary.get?_ofList_of_mem
    (List.mem_map.mpr ⟨entry, List.mem_filter.mpr ⟨member, there⟩, rfl⟩) fun other listed => ?_
  obtain ⟨found, kept, same⟩ := List.mem_map.mp listed
  obtain ⟨named, rfl⟩ := Prod.mk.inj same
  exact only found (List.mem_filter.mp kept).1 named

theorem of_get?_indexOf {key : String} {entry : StoredPackage}
    (found : (indexOf w entries).get? key = some entry) :
    (entry ∈ entries ∧ entry.reference = key) ∧
      (w.tree.kind? w.working entry.path).isSome = true := by
  obtain ⟨other, kept, same⟩ := List.mem_map.mp (Dictionary.mem_of_get?_ofList found)
  obtain ⟨named, rfl⟩ := Prod.mk.inj same
  obtain ⟨member, there⟩ := List.mem_filter.mp kept
  exact ⟨⟨member, named⟩, there⟩

/-- If no two entries of the file have the same reference, an entry is found under its reference
exactly if its directory is there. -/
theorem get?_indexOf_iff {key : String} {entry : StoredPackage}
    (distinct : ∀ one ∈ entries, ∀ other ∈ entries, other.reference = one.reference → other = one) :
    (indexOf w entries).get? key = some entry ↔ (entry ∈ entries ∧ entry.reference = key) ∧
      (w.tree.kind? w.working entry.path).isSome = true := by
  refine ⟨of_get?_indexOf, ?_⟩
  rintro ⟨⟨member, rfl⟩, there⟩
  exact get?_indexOf member there fun other => distinct entry member other

end BpfDepot.PackageStore
