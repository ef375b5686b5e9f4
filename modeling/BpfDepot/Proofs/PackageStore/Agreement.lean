import BpfDepot.Proofs.Dictionary
import BpfDepot.Proofs.PackageStore.Kept

/-! # Handles with the same bindings

Two handles on a directory may have their entries in different orders. Nothing that is asked
of them tells them apart: they list the same entries, refer to the same entry and load the
same package (`PackageStore.Agree.list_eq`, `PackageStore.Agree.get?_eq`,
`PackageStore.Agree.load_eq`), and an operation on one of them has the result and the effect
that it has on the other one (`PackageStore.Agree.carryOut`).
-/

namespace BpfDepot.PackageStore

open World

/-- Two handles on one directory have the same bindings, each of them under the reference
of its entry. -/
structure Agree (s t : PackageStore) : Prop where
  directory : s.directory = t.directory
  bindings : ∀ key, s.index.get? key = t.index.get? key
  references : ∀ key entry, s.index.get? key = some entry → entry.reference = key

/-- The entries are listed in the order of their references. -/
theorem pairwise_list (s : PackageStore) :
    s.list.Pairwise fun a b => decide (a.reference ≤ b.reference) = true := by
  refine List.pairwise_mergeSort (fun a b c first second => ?_) (fun a b => ?_) _
  · simp only [decide_eq_true_eq] at first second ⊢
    exact String.le_trans first second
  · simp only [Bool.or_eq_true, decide_eq_true_eq]
    exact String.le_total a.reference b.reference

/-- The entries have one order only in which their references ascend. -/
theorem eq_list_of_perm {s : PackageStore} {entries : List StoredPackage}
    (references : ∀ key entry, s.index.get? key = some entry → entry.reference = key)
    (sorted : entries.Pairwise fun a b => decide (a.reference ≤ b.reference) = true)
    (perm : entries.Perm s.list) : entries = s.list := by
  refine List.Perm.eq_of_pairwise (fun a b here there least most => ?_) sorted (pairwise_list s)
    perm
  obtain ⟨key, first⟩ := mem_list_iff.mp (perm.mem_iff.mp here)
  obtain ⟨other, second⟩ := mem_list_iff.mp there
  have same : a.reference = b.reference :=
    String.le_antisymm (of_decide_eq_true least) (of_decide_eq_true most)
  rw [references key a first, references other b second] at same
  rw [same, second] at first
  exact (Option.some.inj first).symm

/-- No entry is listed twice. -/
theorem nodup_list {s : PackageStore}
    (references : ∀ key entry, s.index.get? key = some entry → entry.reference = key) :
    s.list.Nodup := by
  have keys : s.index.values.map StoredPackage.reference = s.index.keys := by
    rw [Dictionary.values, Dictionary.keys, List.map_map]
    exact List.map_congr_left fun bound member =>
      references bound.1 bound.2 (Dictionary.get?_eq_some_iff.mpr member)
  have nodup : (s.index.values.map StoredPackage.reference).Nodup := keys ▸ s.index.nodup_keys
  refine (List.mergeSort_perm _ _).nodup_iff.mpr ?_
  exact (List.pairwise_map.mp nodup).imp fun differ same => differ (congrArg _ same)

namespace Agree

variable {s t s' : PackageStore} {w w' : World} {text source target : String}

theorem symm (agree : Agree s t) : Agree t s := by
  refine ⟨agree.directory.symm, fun key => (agree.bindings key).symm, fun key entry found => ?_⟩
  rw [← agree.bindings] at found
  exact agree.references key entry found

theorem trans (first : Agree s t) (second : Agree t s') : Agree s s' :=
  ⟨first.directory.trans second.directory,
    fun key => (first.bindings key).trans (second.bindings key), first.references⟩

theorem get?_eq (agree : Agree s t) (text : String) : s.get? text = t.get? text := by
  unfold get?
  cases Reference.canonical text with
  | ok key => exact agree.bindings key
  | error fault => rfl

/-- **Lists.** The entries are listed in the order of their references, and no two of them
have the same. -/
theorem list_eq (agree : Agree s t) : s.list = t.list := by
  refine eq_list_of_perm agree.symm.references (pairwise_list s) ?_
  exact (List.mergeSort_perm _ _).trans
    ((Dictionary.perm_values agree.bindings).trans (List.mergeSort_perm _ _).symm)

section Programs

variable {m : Type → Type} [Monad m] [Host m]

theorem load_eq (agree : Agree s t) (text : String) :
    (s.load text : ExceptT Error m Package) = t.load text := by
  unfold load
  rw [agree.get?_eq]

/-- What brings the directory into line is told by the bindings. -/
theorem align_eq (agree : Agree s t) (replaced : Option StoredPackage) :
    (align s replaced : ExceptT Error m Unit) = align t replaced := by
  have used (digest : String) : s.index.values.any (fun other => other.digest = digest) =
      t.index.values.any fun other => other.digest = digest :=
    (Dictionary.perm_values agree.bindings).any_eq
  have cleared (entry : StoredPackage) :
      (clearUnused s entry : ExceptT Error m Unit) = clearUnused t entry := by
    unfold clearUnused
    rw [used]
  have written : (writeIndex s : ExceptT Error m Unit) = writeIndex t := by
    unfold writeIndex
    rw [agree.directory, agree.list_eq]
  cases replaced with
  | none => exact written
  | some entry =>
      simp only [align]
      rw [cleared, written]

end Programs

/-! ## Operations -/

/-- Handles that take corresponding entries still agree. -/
theorem insert (agree : Agree s t) (entry : StoredPackage) :
    Agree { s with index := s.index.insert entry.reference entry }
      { t with index := t.index.insert entry.reference entry } := by
  refine ⟨agree.directory, fun key => ?_, fun key found bound => ?_⟩
  · by_cases same : key = entry.reference
    · rw [same, Dictionary.get?_insert_self, Dictionary.get?_insert_self]
    · rw [Dictionary.get?_insert_of_ne _ _ same, Dictionary.get?_insert_of_ne _ _ same]
      exact agree.bindings key
  · by_cases same : key = entry.reference
    · subst same
      rw [Dictionary.get?_insert_self] at bound
      rw [Option.some.inj bound]
    · rw [Dictionary.get?_insert_of_ne _ _ same] at bound
      exact agree.references key found bound

theorem erase (agree : Agree s t) (name : String) :
    Agree { s with index := s.index.erase name } { t with index := t.index.erase name } := by
  refine ⟨agree.directory, fun key => ?_, fun key found bound => ?_⟩
  · by_cases same : key = name
    · rw [same, Dictionary.get?_erase_self, Dictionary.get?_erase_self]
    · rw [Dictionary.get?_erase_of_ne _ same, Dictionary.get?_erase_of_ne _ same]
      exact agree.bindings key
  · by_cases same : key = name
    · rw [same, Dictionary.get?_erase_self] at bound
      cases bound
    · rw [Dictionary.get?_erase_of_ne _ same] at bound
      exact agree.references key found bound

/-- Making an entry asks the handle for its directory only. -/
theorem newEntry (agree : Agree s t) {p : Package} {result : Except Error StoredPackage}
    (made : Operates (newEntry text p) s w result s' w') :
    Operates (PackageStore.newEntry text p) t w result t w' := by
  cases canonical : Reference.canonical text with
  | error fault =>
      obtain ⟨rfl, -, rfl⟩ := ((keyOf_of_error canonical s w).bind_error _).unique made
      exact (keyOf_of_error canonical t _).bind_error _
  | ok key =>
      obtain ⟨outcome, v, shelved⟩ := Runs.total (shelve s.directory p) w
      have other := shelved
      rw [agree.directory] at other
      cases outcome with
      | error error =>
          obtain ⟨rfl, -, rfl⟩ := (operates_newEntry_of_error canonical shelved).unique made
          exact operates_newEntry_of_error canonical other
      | ok _ =>
          obtain ⟨rfl, -, rfl⟩ := (operates_newEntry canonical shelved).unique made
          rw [agree.directory]
          exact operates_newEntry canonical other

/-- Copying an entry asks the handle for what a text refers to only. -/
theorem copyEntry (agree : Agree s t) {result : Except Error StoredPackage}
    (made : Operates (copyEntry source target) s w result s' w') :
    Operates (PackageStore.copyEntry source target) t w result t w' := by
  cases found : s.get? source with
  | none =>
      obtain ⟨rfl, -, rfl⟩ := (operates_copyEntry_of_missing target found).unique made
      exact operates_copyEntry_of_missing target (agree.get?_eq source ▸ found)
  | some entry =>
      have there : t.get? source = some entry := agree.get?_eq source ▸ found
      cases canonical : Reference.canonical target with
      | error fault =>
          obtain ⟨rfl, -, rfl⟩ := (operates_copyEntry_of_error found canonical).unique made
          exact operates_copyEntry_of_error there canonical
      | ok key =>
          obtain ⟨rfl, -, rfl⟩ := (operates_copyEntry found canonical).unique made
          exact operates_copyEntry there canonical

/-- Two changes of handles that agree replace and bind the same, and the handles agree
after them. -/
structure Corresponds (s t : PackageStore) (change other : Change) : Prop where
  replaced : change.replaced = other.replaced
  bound : change.bound = other.bound
  agree : Agree { s with index := change.index } { t with index := other.index }

theorem binding (agree : Agree s t) (entry : StoredPackage) :
    Corresponds s t (.binding s entry) (.binding t entry) :=
  ⟨agree.bindings entry.reference, rfl, agree.insert entry⟩

/-- **Preparing.** What one handle prepares the other one prepares too. -/
theorem prepare (agree : Agree s t) {operation : Operation} {result : Except Error Change}
    (prepared : Operates operation.prepare s w result s' w') :
    ∃ other, Operates operation.prepare t w other t w' ∧
      ((∃ error, result = .error error ∧ other = .error error) ∨
        ∃ change change', result = .ok change ∧ other = .ok change' ∧
          Corresponds s t change change') := by
  have enter {make : StoreM WorldM StoredPackage} {outcome : Except Error StoredPackage}
      (made : Operates make t w outcome t w') :
      ∃ other, Operates (do
          let entry ← make
          return Change.binding (← get) entry) t w other t w' ∧
        ((∃ error, outcome.map (Change.binding s) = .error error ∧ other = .error error) ∨
          ∃ change change', outcome.map (Change.binding s) = .ok change ∧ other = .ok change' ∧
            Corresponds s t change change') := by
    cases outcome with
    | error error => exact ⟨_, made.bind_error _, Or.inl ⟨error, rfl, rfl⟩⟩
    | ok entry =>
        exact ⟨_, made.bind ((Operates.get _ _).bind (Operates.pure _ _ _)),
          Or.inr ⟨_, _, rfl, rfl, agree.binding entry⟩⟩
  cases operation with
  | put text p =>
      obtain ⟨outcome, made, rfl⟩ :=
        Operation.of_binding (fun _ _ _ _ _ made => (newEntry_cases made).1) prepared
      exact enter (agree.newEntry made)
  | tag source target =>
      obtain ⟨outcome, made, rfl⟩ :=
        Operation.of_binding (fun _ _ _ _ _ made => (copyEntry_cases made).1) prepared
      exact enter (agree.copyEntry made)
  | remove text =>
      cases canonical : Reference.canonical text with
      | error fault =>
          obtain ⟨rfl, -, rfl⟩ := ((keyOf_of_error canonical s w).bind_error _).unique prepared
          exact ⟨_, (keyOf_of_error canonical t _).bind_error _, Or.inl ⟨_, rfl, rfl⟩⟩
      | ok key =>
          cases bound : s.index.get? key with
          | none =>
              obtain ⟨rfl, -, rfl⟩ :=
                (Operation.prepare_remove_of_missing canonical bound).unique prepared
              rw [agree.bindings] at bound
              exact ⟨_, Operation.prepare_remove_of_missing canonical bound,
                Or.inl ⟨_, rfl, rfl⟩⟩
          | some entry =>
              obtain ⟨rfl, -, rfl⟩ := (Operation.prepare_remove canonical bound).unique prepared
              rw [agree.bindings] at bound
              exact ⟨_, Operation.prepare_remove canonical bound,
                Or.inr ⟨_, _, rfl, rfl, rfl, rfl, agree.erase key⟩⟩

/-- **Operations.** An operation on one handle has the result that it has on the other one,
leaves the same world, and the handles agree after it. -/
theorem carryOut (agree : Agree s t) {operation : Operation}
    {result : Except Error (Option StoredPackage)}
    (carried : Operates operation.carryOut s w result s' w') :
    ∃ t', Operates operation.carryOut t w result t' w' ∧ Agree s' t' := by
  rw [Operation.carryOut_eq] at carried ⊢
  rcases Operates.bind_cases carried with ⟨error, early, rfl⟩ | ⟨change, r, v, prepared, late⟩
  · obtain rfl := operation.steady_prepare _ _ _ _ _ early
    obtain ⟨_, failed, ⟨_, ⟨⟩, rfl⟩ | ⟨_, _, ⟨⟩, -⟩⟩ := agree.prepare early
    exact ⟨t, failed.bind_error _, agree⟩
  · obtain rfl := operation.steady_prepare _ _ _ _ _ prepared
    obtain ⟨_, other, ⟨_, ⟨⟩, -⟩ | ⟨_, change', ⟨⟩, rfl, corresponds⟩⟩ := agree.prepare prepared
    rcases Operates.bind_cases late with ⟨error, broken, rfl⟩ | ⟨_, _, u, committed, last⟩
    · obtain ⟨rfl, aligned⟩ := align_of_commit broken
      rw [corresponds.agree.align_eq, corresponds.replaced] at aligned
      exact ⟨_, other.bind ((operates_commit _ _ aligned).bind_error _), corresponds.agree⟩
    · obtain ⟨rfl, aligned⟩ := align_of_commit committed
      rw [corresponds.agree.align_eq, corresponds.replaced] at aligned
      obtain ⟨events, told⟩ := operation.operates_tell change.bound u
      have given := (told _).rest last
      obtain ⟨rfl, rfl, rfl⟩ := (Operates.pure _ _ _).unique given
      rw [corresponds.bound] at told ⊢
      exact ⟨_, other.bind ((operates_commit _ _ aligned).bind
        ((told _).bind (Operates.pure _ _ _))), corresponds.agree⟩

end Agree

end BpfDepot.PackageStore
