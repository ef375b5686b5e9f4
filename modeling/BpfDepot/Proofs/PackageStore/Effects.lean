import BpfDepot.Proofs.PackageStore.Bindings

/-! # What an operation does through a handle

A handle knows its own map of the store. The directory may have other packages than the map
binds: other handles put packages there and take some away (`PackageStore.Views`). Even so
an operation succeeds exactly if it has an effect on the map of its handle, whatever the
directory has (`PackageStore.Views.perform_of_effect`, `PackageStore.Views.perform_of_no_effect`).
It brings its package, takes away what the map does not hold any more, and writes the
entries of its handle to the file of the index (`PackageStore.Leaves`).
-/

namespace BpfDepot.PackageStore

open FileTree World

variable {b : Bindings} {shelf : Package → Prop} {home : Location} {s : PackageStore} {w : World}
  {ps : List Package}

/-- The index of a handle describes a map, and the directory is stocked with a shelf. -/
structure Views (b : Bindings) (shelf : Package → Prop) (home : Location) (s : PackageStore)
    (w : World) : Prop where
  indexed : Indexed b s.directory s.index
  stocked : Stocked shelf s.directory home w

theorem Represents.views (represents : Represents b home s w) : Views b b.Holds home s w :=
  ⟨represents.indexed, represents.stocked⟩

/-- **Aligning.** Bringing the directory into line takes the package that was bound before
from the shelf, unless it is still bound. -/
theorem Views.align (views : Views b shelf home s w)
    (told : Package.Told ps) (known : ∀ q, b.Holds q → q ∈ ps) (there : ∀ q, shelf q → q ∈ ps)
    {old : Option Package} (listed : ∀ q, old = some q → q ∈ ps) {replaced : Option StoredPackage}
    (named : old = none ∧ replaced = none ∨
      ∃ key q entry, old = some q ∧ replaced = some entry ∧ Describes s.directory key q entry) :
    ∃ tree, Runs (PackageStore.align s replaced) w (.ok ()) { w with tree } ∧
      Views b (fun q => shelf q ∧ (old = some q → b.Holds q)) home s { w with tree } ∧
      Written tree home s := by
  rcases named with ⟨rfl, rfl⟩ | ⟨key, q, entry, rfl, rfl, described⟩
  · obtain ⟨tree, writes, file, after⟩ := Stocked.writeIndex s views.stocked
    exact ⟨tree, writes, ⟨views.indexed, after.of_iff fun q => and_iff_left nofun⟩, file⟩
  · have used := any_digest_iff.trans (views.indexed.used_iff told known (listed q rfl))
    rw [← described.digest] at used
    suffices cleared : ∃ tree, Runs (clearUnused s entry) w (.ok ()) { w with tree } ∧
        Stocked (fun r => shelf r ∧ (some q = some r → b.Holds r)) s.directory home
          { w with tree } by
      obtain ⟨tree, clears, between⟩ := cleared
      obtain ⟨written, writes, file, after⟩ := Stocked.writeIndex s between
      exact ⟨written, clears.bind writes, ⟨views.indexed, after⟩, file⟩
    unfold clearUnused
    by_cases holds : b.Holds q
    · rw [used.mpr holds]
      refine ⟨w.tree, Runs.pure _ _, views.stocked.of_iff fun r => and_iff_left ?_⟩
      rintro ⟨⟩
      exact holds
    · rw [Bool.eq_false_iff.mpr fun any => holds (used.mp any), described.path]
      obtain ⟨tree, clears, after⟩ := views.stocked.clear_folder q
      refine ⟨tree, clears.explain _, after.of_iff fun r => and_congr_right fun here => ?_⟩
      constructor
      · intro bound same
        obtain rfl := Package.eq_of_digest_eq told (there r here) (listed q rfl)
          (Package.digest_eq_of_folder_eq same)
        exact holds (bound rfl)
      · rintro apart ⟨⟩
        exact absurd rfl apart

/-! ## Asking the handle -/

namespace Indexed

variable {b : Bindings} {s : PackageStore}

theorem get?_of_none (indexed : Indexed b s.directory s.index) {text : String}
    (unbound : b.at? text = none) : s.get? text = none := by
  unfold Bindings.at? at unbound
  unfold PackageStore.get?
  cases canonical : Reference.canonical text with
  | error fault => rfl
  | ok key =>
      rw [canonical] at unbound
      exact indexed.absent key unbound

theorem get?_of_some (indexed : Indexed b s.directory s.index) {text : String} {p : Package}
    (bound : b.at? text = some p) :
    ∃ key entry, Reference.canonical text = .ok key ∧ b key = some p ∧
      s.get? text = some entry ∧ Describes s.directory key p entry := by
  unfold Bindings.at? at bound
  unfold PackageStore.get?
  cases canonical : Reference.canonical text with
  | error fault =>
      rw [canonical] at bound
      cases bound
  | ok key =>
      rw [canonical] at bound
      obtain ⟨entry, found, described⟩ := indexed.present key p bound
      exact ⟨key, entry, rfl, bound, found, described⟩

end Indexed

theorem describes_entryOf (directory key : String) (p : Package) (created : Instant) :
    Describes directory key p (entryOf directory key p created) where
  reference := by rw [entryOf]
  digest := by rw [entryOf]
  size := by rw [entryOf, Package.size]
  info := by rw [entryOf]
  path := by rw [entryOf]

/-- Shelving a package puts it on the shelf, unless it is there already. -/
theorem Stocked.shelve_of_told {directory : String} (stocked : Stocked shelf directory home w)
    (told : Package.Told ps) (there : ∀ q, shelf q → q ∈ ps) {p : Package} (listed : p ∈ ps) :
    ∃ tree, Runs (PackageStore.shelve directory p) w (.ok ()) { w with tree } ∧
      Stocked (fun q => shelf q ∨ q = p) directory home { w with tree } := by
  unfold PackageStore.shelve
  by_cases held : shelf p
  · refine ⟨w.tree, (Runs.lift (stocked.isComplete_of_held held)).bind (Runs.pure _ _),
      stocked.of_iff fun q => ?_⟩
    exact ⟨fun either => either.elim id fun same => same ▸ held, Or.inl⟩
  · have free : ∀ q, shelf q → q.folder ≠ p.folder := by
      intro q here same
      apply held
      rwa [← Package.eq_of_digest_eq told (there q here) listed
        (Package.digest_eq_of_folder_eq same)]
    obtain ⟨tree, writes, after⟩ := stocked.writePackage_of_free free
    exact ⟨tree, (Runs.lift (stocked.isComplete_of_free free)).bind (writes.explain _), after⟩

/-! ## Effects -/

/-- What the shelf has after an operation that turns the map of its handle into another one:
the packages that the operation brings are there, and those that the map does not hold any
more are gone. -/
def Operation.shelfAfter (operation : Operation) (b b' : Bindings) (shelf : Package → Prop) :
    Package → Prop :=
  fun q => (shelf q ∨ q ∈ operation.packages) ∧ (b.Holds q → b'.Holds q)

/-- What a handle and a world become when an operation has had its effect. -/
structure Leaves (b : Bindings) (shelf : Package → Prop) (home : Location) (s : PackageStore)
    (w : World) (s' : PackageStore) (w' : World) : Prop where
  views : Views b shelf home s' w'
  directory : s'.directory = s.directory
  clock : w'.clock = w.clock
  /-- The entries of the handle are in the file. -/
  written : Written w'.tree home s'
  /-- An entry that is new is dated by the clock. -/
  dated : ∀ key entry, s'.index.get? key = some entry →
    s.index.get? key = some entry ∨ ∃ i, entry.created = w.clock i

namespace Views

/-- Binding a key anew, or unbinding it, is brought into line. -/
theorem align_of_set (views : Views b shelf home s w) (told : Package.Told ps)
    (known : ∀ q, b.Holds q → q ∈ ps) (key : String) (package : Option Package)
    {after : Package → Prop} (there : ∀ q, after q → q ∈ ps)
    (listed : ∀ p, package = some p → p ∈ ps) {index : Dictionary StoredPackage}
    (indexed : Indexed (b.set key package) s.directory index) {v : World}
    (stocked : Stocked after s.directory home v) :
    ∃ tree,
      Runs (PackageStore.align { s with index } (s.index.get? key)) v (.ok ()) { v with tree } ∧
      Views (b.set key package) (fun q => after q ∧ (b.Holds q → (b.set key package).Holds q)) home
        { s with index } { v with tree } ∧
      Written tree home { s with index } := by
  have named : b key = none ∧ s.index.get? key = none ∨
      ∃ name q entry, b key = some q ∧ s.index.get? key = some entry ∧
        Describes s.directory name q entry := by
    cases bound : b key with
    | none => exact Or.inl ⟨rfl, views.indexed.absent key bound⟩
    | some q =>
        obtain ⟨entry, found, described⟩ := views.indexed.present key q bound
        exact Or.inr ⟨key, q, entry, rfl, found, described⟩
  have changed := b.holds_or_iff key package
  obtain ⟨tree, runs, ⟨indexed, stocked⟩, written⟩ :=
    (Views.mk (s := { s with index }) indexed stocked).align told
      (fun q holds => ((changed q).mpr (Or.inl holds)).elim (known q) (listed q)) there
      (fun q bound => known q ⟨key, bound⟩) named
  refine ⟨tree, runs, ⟨indexed, stocked.of_iff fun q => and_congr_right fun _ => ?_⟩, written⟩
  -- what was bound to another key still is
  exact ⟨fun stays bound => stays ⟨key, bound⟩,
    fun stays holds => ((changed q).mp (Or.inl holds)).elim id stays⟩

/-- An operation that binds an entry succeeds when the entry has been made and its package
is on the shelf. -/
theorem perform_of_binding (views : Views b shelf home s w) (told : Package.Told ps)
    (known : ∀ q, b.Holds q → q ∈ ps) {operation : Operation} {key : String} {p : Package}
    {entry : StoredPackage} {after : Package → Prop} {v : World}
    (prepared : Operates operation.prepare s w (.ok (.binding s entry)) s v)
    (described : Describes s.directory key p entry) (listed : p ∈ ps)
    (there : ∀ q, after q → q ∈ ps) (stocked : Stocked after s.directory home v)
    (clock : v.clock = w.clock) (dated : ∃ i, entry.created = w.clock i) :
    ∃ s' w', Operates operation.perform s w (.ok ()) s' w' ∧
      Leaves (b.set key (some p)) (fun q => after q ∧ (b.Holds q → (b.set key (some p)).Holds q))
        home s w s' w' := by
  obtain rfl := described.reference
  obtain ⟨tree, aligned, ⟨indexed, left⟩, written⟩ := views.align_of_set told known _ (some p) there
    (fun q same => Option.some.inj same ▸ listed) (views.indexed.insert described) stocked
  obtain ⟨events, performed⟩ := Operation.perform_of_ok prepared aligned
  refine ⟨_, _, performed, ⟨indexed, left.of_tree_eq rfl rfl rfl⟩, rfl, clock, written, ?_⟩
  intro key other found
  by_cases same : key = entry.reference
  · subst same
    rw [Change.binding, Dictionary.get?_insert_self] at found
    obtain rfl := Option.some.inj found
    exact Or.inr dated
  · rw [Change.binding, Dictionary.get?_insert_of_ne _ _ same] at found
    exact Or.inl found

/-- **Effects.** An operation that has an effect on the map of its handle succeeds, and has
it. -/
theorem perform_of_effect (views : Views b shelf home s w) (told : Package.Told ps)
    (known : ∀ q, b.Holds q → q ∈ ps) (there : ∀ q, shelf q → q ∈ ps) {operation : Operation}
    (brought : ∀ p ∈ operation.packages, p ∈ ps) {b' : Bindings}
    (effect : operation.effect b = some b') :
    ∃ s' w', Operates operation.perform s w (.ok ()) s' w' ∧
      Leaves b' (operation.shelfAfter b b' shelf) home s w s' w' := by
  cases operation with
  | put text p =>
      simp only [Operation.effect] at effect
      split at effect
      · next key canonical =>
        obtain rfl := Option.some.inj effect
        have listed : p ∈ ps := brought p List.mem_cons_self
        obtain ⟨tree, shelved, stocked⟩ := views.stocked.shelve_of_told told there listed
        have prepared := Operation.prepare_put (operates_newEntry canonical shelved)
        refine views.perform_of_binding told known prepared (describes_entryOf _ _ _ _) listed
          (fun q here => here.elim (there q) (brought q)) ?_ rfl ⟨_, rfl⟩
        refine (stocked.of_iff fun q => ?_).of_tree_eq rfl rfl rfl
        rw [Operation.packages, List.mem_singleton]
      · cases effect
  | tag source target =>
      simp only [Operation.effect] at effect
      split at effect
      · next p key bound canonical =>
        obtain rfl := Option.some.inj effect
        obtain ⟨_, entry, -, -, found, described⟩ := views.indexed.get?_of_some bound
        have prepared := Operation.prepare_tag (operates_copyEntry (w := w) found canonical)
        refine views.perform_of_binding told known prepared
          ⟨rfl, described.digest, described.size, described.info, described.path⟩
          (known p (Bindings.holds_of_at? bound)) (fun q here => here.elim (there q) (brought q))
          ?_ rfl ⟨_, rfl⟩
        refine (views.stocked.of_iff fun q => or_iff_left ?_).of_tree_eq rfl rfl rfl
        exact List.not_mem_nil
      · cases effect
  | remove text =>
      simp only [Operation.effect] at effect
      split at effect
      · next key canonical =>
        cases bound : b key with
        | none =>
            rw [bound] at effect
            cases effect
        | some p =>
            rw [bound] at effect
            obtain rfl := Option.some.inj effect
            obtain ⟨entry, found, -⟩ := views.indexed.present key p bound
            obtain ⟨tree, aligned, ⟨indexed, left⟩, written⟩ := views.align_of_set told known key
              none there nofun (views.indexed.erase key) views.stocked
            have prepared := Operation.prepare_remove (w := w) canonical found
            rw [found] at aligned
            obtain ⟨events, performed⟩ := Operation.perform_of_ok prepared aligned
            refine ⟨_, _, performed, ⟨indexed, ?_⟩, rfl, rfl, written, fun other kept there => ?_⟩
            · refine (left.of_iff fun q => and_congr_left' (or_iff_left ?_)).of_tree_eq rfl rfl rfl
              exact List.not_mem_nil
            · by_cases same : other = key
              · rw [same, Dictionary.get?_erase_self] at there
                cases there
              · rw [Dictionary.get?_erase_of_ne _ same] at there
                exact Or.inl there
      · cases effect

end Views

/-- **Failures.** An operation without effect on the map fails, and the handle and the
world stay as they are. -/
theorem Indexed.perform_of_no_effect (indexed : Indexed b s.directory s.index) (w : World)
    {operation : Operation} (effect : operation.effect b = none) :
    ∃ error, Operates operation.perform s w (.error error) s w := by
  suffices early : ∃ error, Operates operation.prepare s w (.error error) s w by
    obtain ⟨error, prepared⟩ := early
    exact ⟨error, Operation.perform_of_error prepared⟩
  cases operation with
  | put text p =>
      simp only [Operation.effect] at effect
      split at effect
      · cases effect
      · next fault canonical =>
        exact ⟨_, ((keyOf_of_error canonical s w).bind_error _).bind_error _⟩
  | tag source target =>
      simp only [Operation.effect] at effect
      have entered : ∃ error,
          Operates (PackageStore.copyEntry source target) s w (.error error) s w := by
        cases bound : b.at? source with
        | none =>
            exact ⟨_, operates_copyEntry_of_missing target (indexed.get?_of_none bound)⟩
        | some p =>
            obtain ⟨_, entry, -, -, found, -⟩ := indexed.get?_of_some bound
            cases canonical : Reference.canonical target with
            | ok key =>
                rw [bound, canonical] at effect
                cases effect
            | error fault =>
                exact ⟨_, operates_copyEntry_of_error found canonical⟩
      obtain ⟨error, failed⟩ := entered
      exact ⟨error, failed.bind_error _⟩
  | remove text =>
      simp only [Operation.effect] at effect
      cases canonical : Reference.canonical text with
      | error fault => exact ⟨_, (keyOf_of_error canonical s w).bind_error _⟩
      | ok key =>
          simp only [canonical] at effect
          have unbound : b key = none := by
            cases bound : b key with
            | none => rfl
            | some p =>
                rw [bound] at effect
                cases effect
          exact ⟨missing text, Operation.prepare_remove_of_missing canonical
            (indexed.absent key unbound)⟩

end BpfDepot.PackageStore
