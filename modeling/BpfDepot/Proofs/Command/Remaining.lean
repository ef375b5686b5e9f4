import BpfDepot.Proofs.Command.Removing
import BpfDepot.Proofs.PackageStore.Reopening

/-! # What remains after removals

The command that removes packages removes what its references stand for, and nothing else
(`Command.list_of_less`). A removal succeeds if its reference is stored and no earlier one was
the same (`Command.fate`), and where the directory of the store is kept the results of all of
them are these (`Command.removing_of_less`). So the order of the references does not matter for
what remains, whatever the store has been through (`Command.removed_of_history`).
-/

namespace BpfDepot.Command

open FileTree World PackageStore

/-! ## References that are named -/

/-- One of the texts stands for a reference. -/
def Named (texts : List String) (key : String) : Prop :=
  ∃ text ∈ texts, Reference.canonical text = .ok key

instance (texts : List String) (key : String) : Decidable (Named texts key) :=
  inferInstanceAs (Decidable (∃ text ∈ texts, Reference.canonical text = .ok key))

/-- A text stands for the reference of an entry. -/
def Stored (entries : List StoredPackage) (text : String) : Prop :=
  ∃ entry ∈ entries, Reference.canonical text = .ok entry.reference

/-- What comes of the removal of a text where there were some entries, after the removal of
others. -/
def fate (entries : List StoredPackage) (earlier : List String) (text : String) :
    Except Error Unit :=
  match Reference.canonical text with
  | .error fault => .error (.invalidReference fault.message)
  | .ok key =>
    if (∃ entry ∈ entries, entry.reference = key) ∧ ¬ Named earlier key then .ok ()
    else .error (missing text)

/-- What comes of the removal of texts one after the other. -/
def fates (entries : List StoredPackage) (earlier texts : List String) :
    List (String × Except Error Unit) :=
  texts.mapIdx fun i text => (text, fate entries (earlier ++ texts.take i) text)

/-- What a command makes of the entries that were there, and what it says. -/
structure Removed (before : List StoredPackage) (references : List String) (force : Bool)
    (result : Except Failure Unit) (after : List StoredPackage) : Prop where
  /-- The entries stay that are not named, in their order. -/
  remaining : after = before.filter fun entry => ¬ Named references entry.reference
  /-- A command that is to pass over failures succeeds. -/
  forced : force = true → result = .ok ()
  /-- Otherwise it succeeds if all references are stored and no two are the same. -/
  succeeds_iff : force = false → (result = .ok () ↔ (∀ text ∈ references, Stored before text) ∧
    references.Pairwise fun a b => Reference.canonical a ≠ Reference.canonical b)
  /-- Its error says one thing of each removal that fails, in the order of the references. -/
  said : force = false → ∀ failure, result = .error failure →
    failure = complaint (fates before [] references)

variable {shelf : Package → Prop} {home : Location} {text key : String}
  {earlier texts : List String} {entries : List StoredPackage} {s t : PackageStore}
  {w : World} {entry : StoredPackage}

theorem named_concat :
    Named (earlier ++ [text]) key ↔ Named earlier key ∨ Reference.canonical text = .ok key := by
  simp only [Named, List.mem_append, List.mem_singleton, or_and_right, exists_or, exists_eq_left]

theorem fates_cons (entries : List StoredPackage) (earlier : List String) (text : String)
    (texts : List String) : fates entries earlier (text :: texts) =
      (text, fate entries earlier text) :: fates entries (earlier ++ [text]) texts := by
  simp [fates, List.mapIdx_cons]

theorem fate_eq_ok_iff : fate entries earlier text = .ok () ↔ Stored entries text ∧
    ∀ other ∈ earlier, Reference.canonical other ≠ Reference.canonical text := by
  have chosen {p : Prop} [Decidable p] {error : Error} :
      (if p then .ok () else .error error : Except Error Unit) = .ok () ↔ p := by
    split <;> simp_all
  unfold fate Stored
  cases canonical : Reference.canonical text with
  | error fault => simp
  | ok key =>
      rw [chosen]
      refine and_congr ?_ ?_
      · simp only [Except.ok.injEq, eq_comm]
      · simp only [Named, not_exists, not_and, ne_eq]

/-- Nothing is said of removals if all references are stored and no two are the same. -/
theorem complaints_eq_nil_iff : (fates entries [] texts).filterMap complaint? = [] ↔
    (∀ text ∈ texts, Stored entries text) ∧
      texts.Pairwise fun a b => Reference.canonical a ≠ Reference.canonical b := by
  simp only [List.filterMap_eq_nil_iff, complaint?_eq_none_iff, fates, List.nil_append]
  rw [List.pairwise_iff_getElem]
  constructor
  · intro all
    have each (i : Nat) (bound : i < texts.length) :
        fate entries (texts.take i) texts[i] = .ok () := all _ (List.mem_mapIdx.mpr ⟨i, bound, rfl⟩)
    refine ⟨fun text member => ?_, fun i j first second before => ?_⟩
    · obtain ⟨i, bound, rfl⟩ := List.mem_iff_getElem.mp member
      exact (fate_eq_ok_iff.mp (each i bound)).1
    · exact (fate_eq_ok_iff.mp (each j second)).2 _
        (List.mem_take_iff_getElem.mpr ⟨i, by omega, rfl⟩)
  · rintro ⟨stored, apart⟩ _ member
    obtain ⟨i, bound, rfl⟩ := List.mem_mapIdx.mp member
    refine fate_eq_ok_iff.mpr ⟨stored _ (List.getElem_mem bound), fun other earlier => ?_⟩
    obtain ⟨j, before, rfl⟩ := List.mem_take_iff_getElem.mp earlier
    exact apart j i (by omega) bound (by omega)

/-! ## One removal -/

/-- A handle has the bindings of another one but for those that are named. -/
structure Less (s : PackageStore) (earlier : List String) (t : PackageStore) : Prop where
  removed : ∀ key, Named earlier key → t.index.get? key = none
  kept : ∀ key, ¬ Named earlier key → t.index.get? key = s.index.get? key

/-- Every entry has the reference that it is bound under. -/
def Keyed (s : PackageStore) : Prop :=
  ∀ key entry, s.index.get? key = some entry → entry.reference = key

theorem Less.refl (s : PackageStore) : Less s [] s :=
  ⟨fun _ ⟨_, member, _⟩ => absurd member List.not_mem_nil, fun _ _ => rfl⟩

theorem Less.of_same (less : Less s earlier t) {index : Dictionary StoredPackage}
    (same : ∀ key, index.get? key = t.index.get? key) :
    Less s earlier { directory := s.directory, index } :=
  ⟨fun key named => (same key).trans (less.removed key named),
    fun key apart => (same key).trans (less.kept key apart)⟩

theorem Less.of_get? (less : Less s earlier t) (found : t.index.get? key = some entry) :
    ¬ Named earlier key ∧ s.index.get? key = some entry := by
  have apart : ¬ Named earlier key := fun named => nomatch (less.removed key named).symm.trans found
  exact ⟨apart, (less.kept key apart).symm.trans found⟩

/-- A text that cannot be removed names nothing that is there. -/
theorem Less.concat_of_absent (less : Less s earlier t)
    (absent : ∀ key, Reference.canonical text = .ok key → t.index.get? key = none) :
    Less s (earlier ++ [text]) t where
  removed key named := (named_concat.mp named).elim (less.removed key) (absent key)
  kept key apart := less.kept key fun named => apart (named_concat.mpr (Or.inl named))

/-- What a text names is gone when it has been removed. -/
theorem Less.concat (less : Less s earlier t) (canonical : Reference.canonical text = .ok key) :
    Less s (earlier ++ [text]) { t with index := t.index.erase key } where
  removed other named := by
    by_cases same : other = key
    · rw [same]
      exact Dictionary.get?_erase_self t.index key
    · rw [Dictionary.get?_erase_of_ne _ same]
      refine less.removed other ((named_concat.mp named).resolve_right ?_)
      rw [canonical, Except.ok.injEq]
      exact Ne.symm same
  kept other apart := by
    rw [named_concat, not_or, canonical, Except.ok.injEq] at apart
    rw [Dictionary.get?_erase_of_ne _ (Ne.symm apart.2)]
    exact less.kept other apart.1

/-- A directory is kept when something is printed. -/
theorem kept_told (kept : Kept shelf home s w) (text : String) (result : Except Error Unit) :
    Kept shelf home s (told text result w) := by
  cases result with
  | error error => exact kept
  | ok _ => exact kept.of_tree_eq rfl rfl rfl

/-- The removal of a reference that is stored succeeds, and keeps the directory. -/
theorem remove_of_kept (kept : Kept shelf home t w) (canonical : Reference.canonical text = .ok key)
    (bound : t.index.get? key = some entry) :
    ∃ w' after, Operates (PackageStore.remove text) t w (.ok ())
        { t with index := t.index.erase key } w' ∧
      Kept after home { t with index := t.index.erase key } w' := by
  have prepared := Operation.prepare_remove (w := w) canonical bound
  have old : ∀ found, some entry = some found → ∃ key, Lodged shelf t.directory key found := by
    rintro _ ⟨⟩
    exact ⟨key, kept.lodging key entry bound⟩
  obtain ⟨tree, after, aligned, next⟩ := Stocked.align (s := { t with index := t.index.erase key })
    kept.stocked (kept.lodging.erase key) old
  obtain ⟨events, done⟩ := Operation.perform_of_ok prepared aligned
  exact ⟨_, after, done, next.of_tree_eq rfl rfl rfl⟩

theorem mem_list_iff_get? (keyed : Keyed s) :
    (∃ entry ∈ s.list, entry.reference = key) ↔ ∃ entry, s.index.get? key = some entry := by
  constructor
  · rintro ⟨entry, member, rfl⟩
    obtain ⟨name, found⟩ := mem_list_iff.mp member
    exact ⟨entry, by rwa [keyed name entry found]⟩
  · rintro ⟨entry, found⟩
    exact ⟨entry, mem_list_iff.mpr ⟨key, found⟩, keyed key entry found⟩

/-- **Steps.** After the removal of some references the removal of another one comes to its fate,
and then that one is removed as well. -/
theorem remove_of_less (kept : Kept shelf home t w) (keyed : Keyed s)
    (less : Less s earlier t) (text : String) :
    ∃ t' w' after, Operates (PackageStore.remove text) t w (fate s.list earlier text) t' w' ∧
      Kept after home t' w' ∧ Less s (earlier ++ [text]) t' ∧ t'.directory = t.directory := by
  unfold fate
  cases canonical : Reference.canonical text with
  | error fault =>
      refine ⟨t, w, shelf, (keyOf_of_error canonical t w).bind_error _, kept, ?_, rfl⟩
      exact less.concat_of_absent fun key named => nomatch canonical.symm.trans named
  | ok key =>
      dsimp only
      cases bound : t.index.get? key with
      | none =>
          -- it was never there, or an earlier one has removed it
          have lost : ¬ ((∃ entry ∈ s.list, entry.reference = key) ∧ ¬ Named earlier key) := by
            rintro ⟨listed, apart⟩
            obtain ⟨entry, found⟩ := (mem_list_iff_get? keyed).mp listed
            rw [less.kept key apart, found] at bound
            cases bound
          rw [if_neg lost]
          refine ⟨t, w, shelf, Operation.perform_of_error
            (Operation.prepare_remove_of_missing canonical bound), kept, ?_, rfl⟩
          refine less.concat_of_absent fun other named => ?_
          obtain rfl := Except.ok.inj (canonical.symm.trans named)
          exact bound
      | some entry =>
          obtain ⟨apart, found⟩ := less.of_get? bound
          rw [if_pos ⟨(mem_list_iff_get? keyed).mpr ⟨entry, found⟩, apart⟩]
          obtain ⟨w', after, removed, next⟩ := remove_of_kept kept canonical bound
          exact ⟨_, w', after, removed, next, less.concat canonical, rfl⟩

/-! ## All removals -/

/-- **Runs.** In a directory that is kept the removals come to their fates. -/
theorem removing_of_less (kept : Kept shelf home t w) (keyed : Keyed s)
    (less : Less s earlier t) (texts : List String) :
    ∃ t' w' after, Removing texts t w (fates s.list earlier texts) t' w' ∧
      Kept after home t' w' ∧ Less s (earlier ++ texts) t' ∧ t'.directory = t.directory := by
  -- what has been named so far carries the induction, not what is left in the store
  induction texts generalizing shelf earlier t w with
  | nil => exact ⟨t, w, shelf, .nil t w, kept, by rwa [List.append_nil], rfl⟩
  | cons text texts ih =>
      obtain ⟨r, v, between, first, next, fewer, place⟩ := remove_of_less kept keyed less text
      obtain ⟨t', w', after, rest, last, least, directory⟩ :=
        ih (kept_told next text (fate s.list earlier text)) fewer
      rw [List.append_assoc] at least
      rw [fates_cons]
      exact ⟨t', w', after, .cons first rest, last, least, directory.trans place⟩

/-- **Remaining entries.** A handle lists the entries of another one but for those that are
named. -/
theorem list_of_less (keyed : Keyed s) (less : Less s texts t) :
    t.list = s.list.filter fun entry => ¬ Named texts entry.reference := by
  have still : Keyed t := fun key entry found => keyed key entry (less.of_get? found).2
  refine (eq_list_of_perm still ((pairwise_list s).filter _) ?_).symm
  refine (List.perm_ext_iff_of_nodup ((nodup_list keyed).filter _) (nodup_list still)).mpr ?_
  intro entry
  rw [List.mem_filter, decide_eq_true_eq, mem_list_iff, mem_list_iff]
  constructor
  · rintro ⟨⟨key, found⟩, apart⟩
    obtain rfl := keyed key entry found
    exact ⟨entry.reference, (less.kept _ apart).trans found⟩
  · rintro ⟨key, found⟩
    obtain ⟨apart, there⟩ := less.of_get? found
    obtain rfl := keyed key entry there
    exact ⟨⟨_, there⟩, apart⟩

/-! ## The command -/

/-- **The command.** In a directory that is kept the entries that are named are removed, and what is
said of the others is known. -/
theorem removed_of_kept {settings : Settings} (kept : Kept shelf home s w)
    (place : settings.storePath w.home = s.directory) (references : List String) (force : Bool) :
    ∃ result w' t, Runs (runRemove settings references force) w result w' ∧
      Runs (openAt s.directory) w' (.ok t) w' ∧ Removed s.list references force result t.list := by
  have keyed : Keyed s := fun key entry found => (kept.lodging key entry found).reference
  obtain ⟨index, opened, same⟩ := kept.openAt
  have agree := kept.agree same
  obtain ⟨t, w', after, removing, last, least, directory⟩ := removing_of_less
    (kept.of_agree agree.symm) keyed ((Less.refl s).of_same same) references
  obtain ⟨index', reopened, again⟩ := last.openAt
  rw [directory] at reopened
  refine ⟨_, w', _, runs_runRemove force (runs_openStore place opened) removing,
    reopened, ?remaining, ?forced, ?succeeds_iff, ?said⟩
  case remaining => exact list_of_less keyed (least.of_same again)
  case forced => exact fun forced => verdict_eq_ok_iff.mpr (Or.inl forced)
  case succeeds_iff =>
    rintro rfl
    rw [verdict_eq_ok_iff, ← complaints_eq_nil_iff]
    exact or_iff_right nofun
  case said => exact fun _ _ => eq_of_verdict_eq_error

/-- **Histories.** Open a store where nothing stands below the place of its directory, and let
nothing else write there and no call be broken off. Whatever is asked of it then, and however
often it is opened again, the command that removes packages removes the entries that its
references name and no others, whatever their order, how often they are named and which of the
removals fail. -/
theorem removed_of_history {directory : String} {before world : World} {store : PackageStore}
    (quiet : before.Quiet) (standing : before.tree.node? before.working = some .directory)
    (direct : Direct before.working directory)
    (fresh : before.tree.Bare (spot before.working directory))
    (opened : Runs (openAt directory) before (.ok store) world)
    (clock : ∀ i, (world.clock i).Valid) (steps : List Step)
    (small : ∀ step ∈ steps, ∀ p ∈ step.packages, p.size < 2 ^ 64) :
    ∃ replies s w r, Operates (answerAll steps) store world (.ok replies) s w ∧
      Runs (openAt directory) w (.ok r) w ∧ r.list = s.list ∧
      ∀ settings : Settings, settings.storePath w.home = directory → ∀ references force,
        ∃ result w' t, Runs (runRemove settings references force) w result w' ∧
          Runs (openAt directory) w' (.ok t) w' ∧
          Removed s.list references force result t.list := by
  have kept := kept_of_openAt quiet standing direct fresh opened
  obtain ⟨rfl, -, -, -⟩ := bare_of_openAt opened quiet standing direct fresh
  obtain ⟨replies, s, -, w, after, ran, -, last, -, place⟩ :=
    kept.answerAll clock (kept.agree fun _ => rfl) small
  have directory_eq : s.directory = directory := place
  obtain ⟨index, reopened, same⟩ := last.openAt
  rw [directory_eq] at reopened
  refine ⟨replies, s, w, _, ran, reopened, (last.agree same).list_eq, ?_⟩
  intro settings named references force
  obtain ⟨result, w', t, removing, again, removed⟩ :=
    removed_of_kept last (named.trans directory_eq.symm) references force
  exact ⟨result, w', t, removing, directory_eq ▸ again, removed⟩

/-- A store takes a package under two references and is opened again. Then one of them is named
twice in two ways, and the command fails. -/
theorem removed_of_history_probe :
    let steps : List Step := [.ask (.change (.put "probe" Probe.package)),
      .ask (.change (.tag "probe" "other:v1")), .reopen]
    let settings : Settings := { storeDirectory := some "store" }
    let references : List String := ["probe", "docker.io/library/probe"]
    Runs (openAt "store") Probe.before (.ok Probe.store) Probe.world ∧
      ∃ replies s w r, Operates (answerAll steps) Probe.store Probe.world (.ok replies) s w ∧
        Runs (openAt "store") w (.ok r) w ∧ r.list = s.list ∧
        ∃ result w' t, Runs (runRemove settings references false) w result w' ∧
          Runs (openAt "store") w' (.ok t) w' ∧ Removed s.list references false result t.list ∧
          result ≠ .ok () := by
  intro steps settings references
  have small : ∀ p ∈ steps.flatMap Step.packages, p.size < 2 ^ 64 :=
    Probe.small fun _ => List.mem_singleton.mp
  obtain ⟨replies, s, w, r, ran, reopened, same, removes⟩ := removed_of_history Probe.quiet
    Probe.standing Probe.direct Probe.fresh Probe.opened Probe.clock steps
    (List.forall_mem_flatMap.mp small)
  obtain ⟨result, w', t, removing, again, removed⟩ := removes settings rfl references false
  refine ⟨Probe.opened, replies, s, w, r, ran, reopened, same, result, w', t, removing, again,
    removed, fun done => ?_⟩
  have twice : Reference.canonical "probe" = Reference.canonical "docker.io/library/probe" := rfl
  obtain ⟨-, apart⟩ := (removed.succeeds_iff rfl).mp done
  exact (List.pairwise_cons.mp apart).1 _ List.mem_cons_self twice

end BpfDepot.Command
