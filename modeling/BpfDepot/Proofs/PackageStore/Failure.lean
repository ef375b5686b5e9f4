import BpfDepot.Proofs.PackageStore.Operation

/-! # What a failure leaves on the handle

The handle takes a change before the directory is brought into line with it, and keeps
the change when that fails. So the failures that do not show on the handle are those of
preparing a change, and those of changes that change nothing
(`PackageStore.failure_invisible_iff`).
-/

namespace BpfDepot.PackageStore

open FileTree World

variable {s s' : PackageStore} {w w' : World}

theorem get?_of_canonical {text key : String} (canonical : Reference.canonical text = .ok key)
    (s : PackageStore) : s.get? text = s.index.get? key := by
  unfold get?
  rw [canonical]

/-- A prepared change shows on a handle that takes it, unless it binds an entry that is
bound already. -/
theorem get?_of_prepared {operation : Operation} {change : Change}
    (prepared : Operates operation.prepare s w (.ok change) s w')
    (same : ({ s with index := change.index } : PackageStore).get? operation.subject =
      s.get? operation.subject) :
    ∃ entry, change = .binding s entry ∧ s.index.get? entry.reference = some entry := by
  obtain ⟨key, canonical, either⟩ := Operation.of_prepare_ok prepared
  rw [get?_of_canonical canonical, get?_of_canonical canonical] at same
  rcases either with ⟨entry, rfl, rfl⟩ | ⟨entry, bound, rfl⟩
  · refine ⟨entry, rfl, ?_⟩
    rw [← same]
    exact Dictionary.get?_insert_self _ _ _
  · -- the entry is gone from the handle, but it was there
    rw [bound] at same
    exact nomatch (Dictionary.get?_erase_self s.index key).symm.trans same

/-- **Invisible failures.** What a handle shows stays the same when an operation fails
exactly if the operation could not prepare its change, or if the change was to bind an entry
that is bound already. -/
theorem failure_invisible_iff {operation : Operation} {error : Error}
    (failed : Operates operation.perform s w (.error error) s' w') :
    (s'.list = s.list ∧ ∀ text, s'.get? text = s.get? text) ↔
      (∃ fault v, Operates operation.prepare s w (.error fault) s v) ∨
        ∃ entry v, Operates operation.prepare s w (.ok (.binding s entry)) s v ∧
          s.index.get? entry.reference = some entry := by
  rcases Operation.failure_cases failed with ⟨early, rfl⟩ | ⟨change, v, prepared, rfl, -⟩
  · exact ⟨fun _ => Or.inl ⟨error, w', early⟩, fun _ => ⟨rfl, fun _ => rfl⟩⟩
  · constructor
    · rintro ⟨-, same⟩
      obtain ⟨entry, rfl, bound⟩ := get?_of_prepared prepared (same operation.subject)
      exact Or.inr ⟨entry, v, prepared, bound⟩
    · rintro (⟨fault, u, early⟩ | ⟨entry, u, bindable, bound⟩)
      · exact nomatch (prepared.unique early).1
      · obtain ⟨equal, -, -⟩ := bindable.unique prepared
        obtain rfl := Except.ok.inj equal
        have still : (Change.binding s entry).index = s.index := Dictionary.insert_of_get? bound
        rw [still]
        exact ⟨rfl, fun _ => rfl⟩

/-! ## A store whose index cannot be written -/

namespace Blocked

/-- The only entry. -/
def entry : StoredPackage where
  reference := "h.io/a:v"
  digest := "sha256:d"
  size := 13
  info := "x"
  created := ⟨⟨2026, 1, 1⟩, 0, 0, 0, 0⟩
  path := "s/sha256/d"

/-- The handle. -/
def store : PackageStore := { directory := "s", index := .ofList [("h.io/a:v", entry)] }

/-- The index in its file. -/
def text : String :=
  "\x7b\"packages\":[\x7b\"reference\":\"h.io/a:v\",\"digest\":\"sha256:d\",\"size_bytes\":13," ++
    "\"info\":\"x\",\"created_at\":\"2026-01-01T00:00:00Z\",\"path\":\"s/sha256/d\"\x7d]\x7d"

/-- The directory of the store, where a directory stands in the way of the index. -/
def around : List (Location × Node) := [
  (["s"], .directory),
  (["s", "index.json"], .file text.toUTF8),
  (["s", "index.json.tmp"], .directory),
  (["s", "sha256"], .directory)]

/-- The directory of the package. -/
def shelf : List (Location × Node) := [
  (["s", "sha256", "d"], .directory),
  (["s", "sha256", "d", "program.o"], .file ⟨#[112]⟩),
  (["s", "sha256", "d", "config.json"], .file "\x7b\"info\":\"x\"\x7d".toUTF8)]

/-- The world around the store. -/
def world : World := { tree := ⟨around ++ shelf⟩, clock := fun _ => ⟨⟨2026, 1, 1⟩, 0, 0, 0, 0⟩ }

/-- The handle after the entry has been removed. -/
def emptied : PackageStore := { store with index := {} }

/-- The world after the package has been removed. -/
def cleared : World := { world with tree := ⟨around⟩ }

theorem removeTree_path : world.tree.removeTree [] entry.path = .ok ⟨around⟩ := by
  have located : world.tree.locate [] entry.path = .ok ["s", "sha256", "d"] := rfl
  have inside : (world.tree.under ["s", "sha256", "d"]).map Prod.fst =
      [["s", "sha256", "d"], ["s", "sha256", "d", "program.o"],
        ["s", "sha256", "d", "config.json"]] := rfl
  have order : world.tree.removalOrder [] entry.path = .ok
      [["s", "sha256", "d", "program.o"], ["s", "sha256", "d", "config.json"],
        ["s", "sha256", "d"]] := by
    unfold removalOrder
    rw [located]
    change (Except.ok _ : Except FileFault _) = _
    rw [inside]
    simp [List.mergeSort, List.MergeSort.Internal.splitInTwo]
  unfold removeTree
  rw [order]
  rfl

/-- Removing the entry removes the package and fails when the index is written. -/
theorem operates_remove : Operates (Operation.remove "h.io/a:v").perform store world
    (.error (.io .isDirectory)) emptied cleared := by
  have prepared : Operates (Operation.remove "h.io/a:v").prepare store world
      (.ok { index := {}, replaced := some entry, bound := none }) store world := rfl
  have removed : Runs (Files.attempt (.removeTree entry.path)) world (.ok ()) cleared := by
    refine Runs.attempt rfl ?_
    change world.tree.changed (world.tree.removeTree [] entry.path) = _
    rw [removeTree_path]
    rfl
  have gone : Runs (clear entry.path) world (.ok ()) cleared := (Runs.lift rfl).bind removed
  have blocked : Runs (writeIndex emptied) cleared (.error (.io .isDirectory)) cleared := rfl
  exact Operation.perform_of_broken prepared ((gone.explain _).bind blocked)

end Blocked

/-- A removal that fails shows on the handle. -/
theorem failure_visible : ∃ s w error s' w' text,
    Operates (Operation.remove text).perform s w (.error error) s' w' ∧
      s'.get? text ≠ s.get? text :=
  ⟨_, _, _, _, _, _, Blocked.operates_remove, nofun⟩

/-- A removal from a store whose index cannot be written could be prepared, so it shows. -/
theorem failure_invisible_iff_blocked :
    Operates (Operation.remove "h.io/a:v").perform Blocked.store Blocked.world
        (.error (.io .isDirectory)) Blocked.emptied Blocked.cleared ∧
      ((Blocked.emptied.list = Blocked.store.list ∧
          ∀ text, Blocked.emptied.get? text = Blocked.store.get? text) ↔
        (∃ fault v, Operates (Operation.remove "h.io/a:v").prepare Blocked.store Blocked.world
            (.error fault) Blocked.store v) ∨
          ∃ entry v, Operates (Operation.remove "h.io/a:v").prepare Blocked.store Blocked.world
              (.ok (.binding Blocked.store entry)) Blocked.store v ∧
            Blocked.store.index.get? entry.reference = some entry) :=
  ⟨Blocked.operates_remove, failure_invisible_iff Blocked.operates_remove⟩

end BpfDepot.PackageStore
