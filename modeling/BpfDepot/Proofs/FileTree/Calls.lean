import BpfDepot.Proofs.FileTree.Route

/-! # Calls at a home

What the calls of a file system find and do when their paths lead into a home: a path
inside a directory finds the node that stands there, files are written and moved, trees
are made and removed, and every call succeeds where a file system would let it.
-/

namespace BpfDepot.FileTree

variable {t : FileTree} {working home : Location} {directory name : String}

theorem ok_bind {ε α β : Type} (a : α) (next : α → Except ε β) :
    (Except.ok a >>= next) = next a := rfl

/-- The node that a path inside a directory finds. -/
theorem kind?_join (at_home : t.Home working directory home) (plain : Path.IsName name) :
    t.kind? working (Path.join directory name) = (t.node? (home ++ [name])).map Node.kind := by
  unfold kind?
  rw [at_home.locate plain]

theorem kind?_join_of_not_reached (unreached : ¬ t.Reached working directory)
    (plain : Path.IsName name) : t.kind? working (Path.join directory name) = none := by
  unfold kind?
  cases located : t.locate working (Path.join directory name) with
  | error fault => rfl
  | ok p => exact absurd ((locate_join_iff plain).mp located).1 unreached

theorem Home.reached_join_iff (at_home : t.Home working directory home)
    (plain : Path.IsName name) : t.Reached working (Path.join directory name) ↔
      t.node? (home ++ [name]) = some .directory := by
  rw [FileTree.reached_join_iff plain, at_home.ends]
  exact and_iff_right at_home.reached

/-- **Reading.** What is read at a path inside a directory are the bytes of the file there. -/
theorem read_join_iff (plain : Path.IsName name) {bytes : ByteArray} :
    t.read working (Path.join directory name) = .ok bytes ↔
      t.Reached working directory ∧
        t.node? (spot working directory ++ [name]) = some (.file bytes) := by
  unfold read
  cases located : t.locate working (Path.join directory name) with
  | error fault =>
      refine ⟨nofun, fun ⟨reached, _⟩ => ?_⟩
      rw [(locate_join_iff plain).mpr ⟨reached, rfl⟩] at located
      cases located
  | ok place =>
      obtain ⟨reached, rfl⟩ := (locate_join_iff plain).mp located
      rw [ok_bind]
      split
      · next absent => simp [absent]
      · next directory => simp [directory]
      · next other file =>
        rw [file]
        constructor
        · intro same
          obtain rfl := Except.ok.inj same
          exact ⟨reached, rfl⟩
        · rintro ⟨-, same⟩
          obtain rfl := Node.file.inj (Option.some.inj same)
          rfl

/-- A path at which something is written leads somewhere. -/
theorem locate_of_write {path : String} {bytes : ByteArray} {written : FileTree}
    (wrote : t.write working path bytes = .ok written) :
    ∃ place, t.locate working path = .ok place := by
  unfold write at wrote
  cases located : t.locate working path with
  | error fault =>
      rw [located] at wrote
      cases wrote
  | ok place => exact ⟨place, rfl⟩

/-- **Writing.** A file is written where no directory stands, and nowhere else. -/
theorem write_join_iff (at_home : t.Home working directory home) (plain : Path.IsName name)
    {bytes : ByteArray} {written : FileTree} :
    t.write working (Path.join directory name) bytes = .ok written ↔
      t.node? (home ++ [name]) ≠ some .directory ∧
        written = t.put (home ++ [name]) (.file bytes) := by
  unfold write
  rw [at_home.locate plain, ok_bind]
  split
  · next node => exact ⟨nofun, fun both => absurd node both.1⟩
  · next free =>
    constructor
    · intro done
      exact ⟨fun node => free node, (Except.ok.inj done).symm⟩
    · rintro ⟨-, rfl⟩
      rfl

theorem write_join (at_home : t.Home working directory home) (plain : Path.IsName name)
    (free : t.node? (home ++ [name]) ≠ some .directory) (bytes : ByteArray) :
    t.write working (Path.join directory name) bytes =
      .ok (t.put (home ++ [name]) (.file bytes)) := (write_join_iff at_home plain).mpr ⟨free, rfl⟩

/-- Everything at a place and below it is gone. -/
def Pruned (t pruned : FileTree) (place : Location) : Prop :=
  ∀ p, pruned.node? p = if place <+: p then none else t.node? p

theorem Grounded.pruned {pruned : FileTree} {place : Location} (grounded : t.Grounded)
    (gone : Pruned t pruned place) : pruned.Grounded := by
  intro p node q below other
  rw [gone]
  split
  · rfl
  · next outside =>
    rw [gone, if_neg fun above => outside (above.trans below)] at node
    exact grounded p node q below other

/-- What is removed with a directory is everything at its place and below it. -/
theorem mem_removalOrder {path : String} {place p : Location} {places : List Location}
    (located : t.locate working path = .ok place) (present : t.node? p ≠ none)
    (rooted : p ≠ []) (order : t.removalOrder working path = .ok places) :
    p ∈ places ↔ place <+: p := by
  unfold removalOrder at order
  rw [located, ok_bind] at order
  split at order
  · cases order
  · cases order
  · obtain rfl := Except.ok.inj order
    rw [List.mem_mergeSort, List.mem_map]
    constructor
    · rintro ⟨entry, member, rfl⟩
      exact (mem_under.mp member).2
    · intro below
      obtain ⟨entry, member, same⟩ := mem_of_node?_ne_none rooted present
      exact ⟨entry, mem_under.mpr ⟨member, same ▸ below⟩, same⟩

/-- What is removed with a directory is gone, and nothing else is. The root stays. -/
theorem node?_of_removeTree {path : String} {place p : Location} {pruned : FileTree}
    (located : t.locate working path = .ok place) (done : t.removeTree working path = .ok pruned)
    (rooted : p ≠ []) : pruned.node? p = if place <+: p then none else t.node? p := by
  unfold removeTree at done
  cases order : t.removalOrder working path with
  | error fault =>
      rw [order] at done
      cases done
  | ok places =>
      rw [order] at done
      obtain rfl := Except.ok.inj done
      by_cases absent : t.node? p = none
      · have gone : (t.without places).node? p = none := by
          by_cases member : p ∈ places
          · exact node?_without_of_mem rooted member
          · rw [node?_without_of_not_mem member, absent]
        rw [gone, absent, ite_self]
      · have covers := mem_removalOrder located absent rooted order
        by_cases below : place <+: p
        · rw [if_pos below, node?_without_of_mem rooted (covers.mpr below)]
        · rw [if_neg below, node?_without_of_not_mem fun member => below (covers.mp member)]

/-- **Removing.** A tree is removed exactly where a path leads to a directory. -/
theorem removeTree_isOk_iff {path : String} : (∃ pruned, t.removeTree working path = .ok pruned) ↔
    ∃ place, t.locate working path = .ok place ∧ t.node? place = some .directory := by
  constructor
  · rintro ⟨pruned, done⟩
    unfold removeTree removalOrder at done
    cases located : t.locate working path with
    | error fault =>
        rw [located] at done
        cases done
    | ok place =>
        rw [located, ok_bind] at done
        split at done
        · cases done
        · cases done
        · next node => exact ⟨place, rfl, node⟩
  · rintro ⟨place, located, node⟩
    unfold removeTree removalOrder
    rw [located, ok_bind, node]
    exact ⟨_, rfl⟩

/-- A directory is removed with everything in it. -/
theorem removeTree_join (at_home : t.Home working directory home) (plain : Path.IsName name)
    (node : t.node? (home ++ [name]) = some .directory) :
    ∃ pruned, t.removeTree working (Path.join directory name) = .ok pruned ∧
      Pruned t pruned (home ++ [name]) := by
  have located := at_home.locate plain
  obtain ⟨pruned, done⟩ := removeTree_isOk_iff.mpr ⟨_, located, node⟩
  refine ⟨pruned, done, fun p => ?_⟩
  by_cases rooted : p = []
  · subst rooted
    rw [if_neg (by simp), node?_root, node?_root]
  · exact node?_of_removeTree located done rooted

/-- Something is moved to another name in its directory, if nothing stands there or if
both are files. -/
theorem rename_join (at_home : t.Home working directory home) {target : String}
    (plain : Path.IsName name) (named : Path.IsName target) (other : name ≠ target)
    (present : t.node? (home ++ [name]) ≠ none)
    (fits : t.node? (home ++ [target]) = none ∨
      (∃ bytes, t.node? (home ++ [name]) = some (.file bytes)) ∧
        ∃ bytes, t.node? (home ++ [target]) = some (.file bytes)) :
    t.rename working (Path.join directory name) (Path.join directory target) =
      .ok (t.move (home ++ [name]) (home ++ [target])) := by
  have differ : home ++ [name] ≠ home ++ [target] := by simpa using other
  have apart : (home ++ [name]).isPrefixOf (home ++ [target]) = false := by
    rw [Bool.eq_false_iff, Ne, List.isPrefixOf_iff_prefix]
    intro below
    exact differ (below.eq_of_length (by simp))
  obtain ⟨node, found⟩ := Option.ne_none_iff_exists'.mp present
  unfold rename
  rw [at_home.locate plain, at_home.locate named, ok_bind, ok_bind, found]
  simp only [differ, apart, ↓reduceIte, Bool.false_eq_true]
  rcases fits with absent | ⟨⟨bytes, file⟩, ⟨replaced, stands⟩⟩
  · rw [absent]
    cases node <;> rfl
  · rw [found] at file
    obtain rfl := Option.some.inj file
    rw [stands]
    rfl

/-- **Moving.** What stands beside its target is moved there with everything below it. -/
theorem rename_beside (at_home : t.Home working directory home) {target : String}
    (plain : Path.IsName name) (named : Path.IsName target) (other : name ≠ target)
    (present : t.node? (home ++ [name]) ≠ none)
    (fits : t.node? (home ++ [target]) = none ∨
      (∃ bytes, t.node? (home ++ [name]) = some (.file bytes)) ∧
        ∃ bytes, t.node? (home ++ [target]) = some (.file bytes))
    (bare : t.Bare (home ++ [target])) :
    ∃ tree, t.rename working (Path.join directory name) (Path.join directory target) = .ok tree ∧
      (∀ rest, tree.node? (home ++ target :: rest) = t.node? (home ++ name :: rest)) ∧
      (∀ rest, tree.node? (home ++ name :: rest) = none) ∧
      ∀ q, ¬ home ++ [target] <+: q → ¬ home ++ [name] <+: q → tree.node? q = t.node? q := by
  have moved := node?_move (by simp) bare
    (show ¬ home ++ [name] <+: home ++ [target] by simpa using other)
  have place (last : String) (rest : Location) :
      home ++ last :: rest = home ++ [last] ++ rest := by simp
  refine ⟨_, rename_join at_home plain named other present fits, fun rest => ?_, fun rest => ?_,
    fun q outside away => ?_⟩
  · rw [place target rest, place name rest, moved, if_pos (List.prefix_append _ _), List.drop_left]
  · rw [place name rest, moved, if_neg (by simpa using other.symm), if_pos (List.prefix_append _ _)]
  · rw [moved, if_neg outside, if_neg away]

/-- A change that succeeds leaves its tree. -/
theorem changed_eq_ok {result : Except FileFault FileTree} {after : FileTree}
    (done : t.changed result = (after, .ok ())) : result = .ok after := by
  cases result with
  | ok tree =>
      obtain rfl := congrArg Prod.fst done
      rfl
  | error fault => cases congrArg Prod.snd done

/-! ## Making directories -/

theorem makeDirectory_join (at_home : t.Home working directory home) (plain : Path.IsName name)
    (absent : t.node? (home ++ [name]) = none) :
    t.makeDirectory (start working directory) (Path.names directory ++ [name]) =
      .ok (t.put (home ++ [name]) .directory) := by
  have followed : t.follow (start working directory) (Path.names directory ++ [name]) =
      .ok (home ++ [name]) :=
    follow_append_iff.mpr
      ⟨at_home.reached, by rw [← at_home.ends, step_of_isName plain, spot]⟩
  unfold makeDirectory
  rw [followed, ok_bind, absent]
  rfl

/-- A tree is made at once if the directory around its last directory is there. -/
theorem makeTree_append {here : Location} {names : List String} {last : String}
    {made : FileTree} (done : t.makeDirectory here (names ++ [last]) = .ok made) :
    t.makeTree here (names ++ [last]).reverse = (made, .ok ()) := by
  have back : (last :: names.reverse).reverse = names ++ [last] := by simp
  rw [List.reverse_append, List.reverse_singleton, List.singleton_append, makeTree]
  simp only [back, done]

/-- Otherwise what is around its last directory is made first. -/
theorem makeTree_append_of_missing {here : Location} {names : List String} {last : String}
    {around whole : FileTree}
    (missing : t.makeDirectory here (names ++ [last]) = .error .notFound)
    (before : t.makeTree here names.reverse = (around, .ok ()))
    (done : around.makeDirectory here (names ++ [last]) = .ok whole) :
    t.makeTree here (names ++ [last]).reverse = (whole, .ok ()) := by
  have back : (last :: names.reverse).reverse = names ++ [last] := by simp
  rw [List.reverse_append, List.reverse_singleton, List.singleton_append, makeTree]
  simp only [back, missing, before, done]

theorem createTree_join (at_home : t.Home working directory home) (plain : Path.IsName name)
    (absent : t.node? (home ++ [name]) = none) :
    t.createTree working (Path.join directory name) =
      (t.put (home ++ [name]) .directory, .ok ()) := by
  unfold createTree
  rw [start_join plain, Path.names_join plain]
  exact makeTree_append (makeDirectory_join at_home plain absent)

theorem Home.put_directory (at_home : t.Home working directory home) (plain : Path.IsName name) :
    (t.put (home ++ [name]) .directory).Home working (Path.join directory name)
      (home ++ [name]) := by
  exact (at_home.put name .directory).join plain (node?_put_self (by simp) _)

/-- Where a directory is missing it is made before the directory in it. -/
theorem createTree_join_join (at_home : t.Home working directory home) (plain : Path.IsName name)
    {inner : String} (named : Path.IsName inner) (absent : t.node? (home ++ [name]) = none)
    (empty : t.node? (home ++ [name] ++ [inner]) = none) :
    t.createTree working (Path.join (Path.join directory name) inner) =
      ((t.put (home ++ [name]) .directory).put (home ++ [name] ++ [inner]) .directory,
        .ok ()) := by
  have missing : t.makeDirectory (start working directory)
      (Path.names directory ++ [name] ++ [inner]) = .error .notFound := by
    have ends : goal (start working directory) (Path.names directory) = home := at_home.ends
    unfold makeDirectory
    rw [List.append_assoc, follow_append at_home.reached, ends, List.singleton_append, follow,
      at_home.node]
    simp only [step_of_isName plain]
    rw [follow, absent]
    rfl
  have still : (t.put (home ++ [name]) .directory).node? (home ++ [name] ++ [inner]) = none := by
    rw [← empty]
    exact node?_put_of_ne (by simp) _
  have inside := makeDirectory_join (at_home.put_directory plain) named still
  rw [start_join plain, Path.names_join plain] at inside
  unfold createTree
  rw [start_join named, start_join plain, Path.names_join named, Path.names_join plain]
  exact makeTree_append_of_missing missing
    (makeTree_append (makeDirectory_join at_home plain absent)) inside

end BpfDepot.FileTree
