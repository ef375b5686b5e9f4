import BpfDepot.Proofs.FileTree.Changes

/-! # Where files come from

Only two calls bring a file to a place: one that writes it there and one that moves it there
(`FileTree.NoNewFile.call`, `FileTree.NoNewFile.brokenOff`). What is moved comes whole
(`FileTree.node?_move_self`). What is written comes to the end of its path, whatever places the
path leads through (`FileTree.write_of_reached`), and is read there (`FileTree.read_of_write`).
-/

namespace BpfDepot.FileTree

variable {before t changed : FileTree} {working place : Location}

/-- At a place there is no file but one that was there before. -/
def NoNewFile (place : Location) (before t : FileTree) : Prop :=
  ∀ bytes, t.node? place = some (.file bytes) → before.node? place = some (.file bytes)

/-- The paths at which a call can bring a file. -/
def brings {α : Type} : FileCall α → List String
  | .read _ => []
  | .write path _ => [path]
  | .createTree _ => []
  | .removeTree _ => []
  | .rename source target => [source, target]

namespace NoNewFile

theorem refl (place : Location) (t : FileTree) : NoNewFile place t t := fun _ found => found

theorem of_eq (old : NoNewFile place before t) (same : changed.node? place = t.node? place) :
    NoNewFile place before changed := fun bytes found => old bytes (same ▸ found)

/-- Making directories brings no file. -/
theorem makeTree (old : NoNewFile place before t) (here : Location) (back : List String) :
    NoNewFile place before (t.makeTree here back).1 := by
  refine makeTree_induction (motive := NoNewFile place before) back ?_ t old
  intro made new old absent _ bytes found
  by_cases here : place = new
  · subst here
    have rooted : place ≠ [] := by
      rintro rfl
      cases absent
    rw [node?_put_self rooted] at found
    cases found
  · rw [node?_put_of_ne here] at found
    exact old bytes found

/-- Removing brings no file. -/
theorem without (old : NoNewFile place before t) (places : List Location) :
    NoNewFile place before (t.without places) := by
  intro bytes found
  by_cases gone : place ∈ places
  · have rooted : place ≠ [] := by
      rintro rfl
      cases found
    rw [node?_without_of_mem rooted gone] at found
    cases found
  · rw [node?_without_of_not_mem gone] at found
    exact old bytes found

theorem removeTree (old : NoNewFile place before t) (path : String) :
    NoNewFile place before (t.changed (t.removeTree working path)).1 := by
  unfold FileTree.removeTree
  cases t.removalOrder working path with
  | error fault => exact old
  | ok places => exact old.without places

variable {α : Type} {request : FileCall α}

/-- **Calls** that bring files to other places bring none to a place. -/
theorem call (old : NoNewFile place before t)
    (apart : Apart (· = place) t working (brings request)) :
    NoNewFile place before (t.call working request).1 := by
  cases request with
  | read path => exact old
  | write path bytes => exact old.of_eq (node?_write bytes apart rfl)
  | createTree path => exact old.makeTree _ _
  | removeTree path => exact old.removeTree path
  | rename source target => exact old.of_eq (node?_rename apart rfl)

theorem brokenOff (old : NoNewFile place before t) (steps : Nat)
    (apart : Apart (· = place) t working (brings request)) :
    NoNewFile place before (t.brokenOff working steps request) := by
  cases request with
  | read path => exact old
  | write path bytes =>
      cases steps with
      | zero => exact old
      | succ steps => exact old.of_eq (node?_write _ apart rfl)
  | createTree path => exact old.makeTree _ _
  | removeTree path =>
      rw [FileTree.brokenOff]
      cases t.removalOrder working path with
      | error fault => exact old
      | ok places => exact old.without _
  | rename source target => exact old

end NoNewFile

/-- **Moving** brings to its target what stood at the place that it leaves. -/
theorem node?_move_self {source target : Location} (rooted : source ≠ []) (inside : target ≠ [])
    (other : source ≠ target) : (t.move source target).node? target = t.node? source := by
  have kept : source ∉ [target] := fun same => other (List.mem_singleton.mp same)
  rw [node?_move_eq_find? inside, ← find?_without rooted kept]
  congr 1
  apply find?_eq_of_agree
  intro entry member
  split
  · next moved =>
    obtain ⟨rest, whole⟩ := moved
    rw [decide_eq_decide, ← whole, List.drop_left]
    simp
  · next fixed =>
    rw [decide_eq_decide]
    constructor
    · intro here
      have stays := (List.mem_filter.mp member).2
      simp [here] at stays
    · exact fun here => absurd (here ▸ List.prefix_rfl) fixed

/-- Something that has been renamed has been moved, unless both paths lead to one place. -/
theorem of_rename_ok {source target : String}
    (done : t.rename working source target = .ok changed) :
    ∃ old new, t.locate working source = .ok old ∧ t.locate working target = .ok new ∧
      (old ≠ new → changed = t.move old new) := by
  unfold rename at done
  cases leaving : t.locate working source with
  | error fault =>
      rw [leaving] at done
      cases done
  | ok old =>
      cases entering : t.locate working target with
      | error fault =>
          rw [leaving, entering] at done
          cases done
      | ok new =>
          refine ⟨old, new, rfl, rfl, fun other => ?_⟩
          rw [leaving, entering, ok_bind, ok_bind] at done
          split at done
          · cases done
          · rw [if_neg other] at done
            repeat' split at done
            all_goals first | exact (Except.ok.inj done).symm | cases done

/-! ## Writing -/

variable {directory name : String}

/-- **Writing.** A file is written in a directory that is reached, where no directory stands. -/
theorem write_of_reached (reached : t.Reached working directory) (plain : Path.IsName name)
    (free : t.node? (spot working directory ++ [name]) ≠ some .directory) (bytes : ByteArray) :
    t.write working (Path.join directory name) bytes =
      .ok (t.put (spot working directory ++ [name]) (.file bytes)) := by
  unfold write
  rw [(locate_join_iff plain).mpr ⟨reached, rfl⟩, ok_bind]
  split
  · next node => exact absurd node free
  · rfl

/-- A directory is not overwritten. -/
theorem write_of_directory {path : String} (located : t.locate working path = .ok place)
    (node : t.node? place = some .directory) (bytes : ByteArray) :
    t.write working path bytes = .error .isDirectory := by
  unfold write
  rw [located, ok_bind, node]
  rfl

/-- Directories stay when something is put where none of them stands. -/
theorem node?_put_of_free (free : t.node? place ≠ some .directory) (node : Node) {p : Location}
    (found : t.node? p = some .directory) : (t.put place node).node? p = some .directory := by
  rw [node?_put_of_ne ?_ node, found]
  rintro rfl
  exact free found

theorem Reached.put (reached : t.Reached working directory)
    (free : t.node? place ≠ some .directory) (node : Node) :
    (t.put place node).Reached working directory :=
  fun p member => node?_put_of_free free node (reached p member)

/-- **Reading** at the path at which something has been written gives what was written. -/
theorem read_of_write (plain : Path.IsName name) {bytes : ByteArray}
    (wrote : t.write working (Path.join directory name) bytes = .ok changed) :
    changed.read working (Path.join directory name) = .ok bytes := by
  obtain ⟨_, located⟩ := locate_of_write wrote
  obtain ⟨reached, rfl⟩ := (locate_join_iff plain).mp located
  have free : t.node? (spot working directory ++ [name]) ≠ some .directory := by
    intro node
    rw [write_of_directory located node] at wrote
    cases wrote
  obtain rfl := Except.ok.inj ((write_of_reached reached plain free bytes).symm.trans wrote)
  exact (read_join_iff plain).mpr ⟨reached.put free _, node?_put_self (by simp) _⟩

/-- Making a tree goes on where a part leads back to a directory. -/
theorem makeTree_append_of_there {around : FileTree} {here place : Location} (names : List String)
    {last : String} (missing : t.makeDirectory here (names ++ [last]) = .error .notFound)
    (before : t.makeTree here names.reverse = (around, .ok ()))
    (followed : around.follow here (names ++ [last]) = .ok place)
    (there : around.node? place = some .directory) :
    t.makeTree here (names ++ [last]).reverse = (around, .ok ()) := by
  have back : (last :: names.reverse).reverse = names ++ [last] := by simp
  have made : around.makeDirectory here (names ++ [last]) = .error .alreadyExists := by
    unfold makeDirectory
    rw [followed, ok_bind, there]
    rfl
  have found : around.isDirectory here (names ++ [last]) = true := by
    unfold isDirectory
    rw [followed]
    exact decide_eq_true there
  rw [List.reverse_append, List.reverse_singleton, List.singleton_append, makeTree]
  simp only [back, missing, before, made, found, ↓reduceIte]

end BpfDepot.FileTree
