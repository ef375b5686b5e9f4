import BpfDepot.Proofs.PackageStore.Change
import BpfDepot.Proofs.PackageStore.Opening
import BpfDepot.Proofs.PackageStore.Operation

/-! # A store as a map

Seen from outside a store is a map from references to packages
(`PackageStore.Bindings`), which putting, tagging and removing change in the obvious way
(`PackageStore.Operation.effect`). A handle and a world represent such a map if the index
describes the packages that are bound and the shelf holds them and nothing else; every
operation keeps this up (`PackageStore.Represents.perform`), and so the answers of
a store are those of its map after any calls (`PackageStore.refines_bindings`).
-/

namespace BpfDepot.PackageStore

open FileTree World

/-- The packages that keys are bound to. -/
abbrev Bindings := String → Option Package

namespace Bindings

/-- No key is bound. -/
def none : Bindings := fun _ => Option.none

/-- Binds a key to a package, or to none. -/
def set (b : Bindings) (key : String) (package : Option Package) : Bindings :=
  fun other => if other = key then package else b other

/-- The package that a text refers to. -/
def at? (b : Bindings) (text : String) : Option Package :=
  match Reference.canonical text with
  | .ok key => b key
  | .error _ => Option.none

/-- A package is bound to some key. -/
def Holds (b : Bindings) (p : Package) : Prop := ∃ key, b key = some p

theorem not_holds_none (p : Package) : ¬ none.Holds p := fun ⟨_, bound⟩ => nomatch bound

theorem holds_of_at? {b : Bindings} {text : String} {p : Package} (bound : b.at? text = some p) :
    b.Holds p := by
  unfold at? at bound
  split at bound
  · exact ⟨_, bound⟩
  · cases bound

theorem set_self (b : Bindings) (key : String) (package : Option Package) :
    b.set key package key = package := if_pos rfl

theorem set_of_ne (b : Bindings) {key other : String} (package : Option Package)
    (ne : other ≠ key) : b.set key package other = b other := if_neg ne

/-- What is held before a key is bound anew is held after it, or was bound to the key. -/
theorem holds_or_iff (b : Bindings) (key : String) (package : Option Package) (q : Package) :
    (b.Holds q ∨ package = some q) ↔ ((b.set key package).Holds q ∨ b key = some q) := by
  constructor
  · rintro (⟨other, bound⟩ | new)
    · by_cases same : other = key
      · exact Or.inr (same ▸ bound)
      · exact Or.inl ⟨other, by rw [set_of_ne b package same, bound]⟩
    · exact Or.inl ⟨key, by rw [set_self, new]⟩
  · rintro (⟨other, bound⟩ | old)
    · by_cases same : other = key
      · rw [same, set_self] at bound
        exact Or.inr bound
      · rw [set_of_ne b package same] at bound
        exact Or.inl ⟨other, bound⟩
    · exact Or.inl ⟨key, old⟩

end Bindings

namespace Operation

/-- The packages that an operation brings. -/
def packages : Operation → List Package
  | .put _ package => [package]
  | _ => []

/-- **What an operation does to a map**, if it succeeds. -/
def effect : Operation → Bindings → Option Bindings
  | .put text package, b =>
    match Reference.canonical text with
    | .ok key => some (b.set key (some package))
    | .error _ => Option.none
  | .tag source target, b =>
    match b.at? source, Reference.canonical target with
    | some package, .ok key => some (b.set key (some package))
    | _, _ => Option.none
  | .remove text, b =>
    match Reference.canonical text with
    | .ok key => if (b key).isSome then some (b.set key Option.none) else Option.none
    | .error _ => Option.none

end Operation

/-- What an entry of the index says of a package under a key. -/
structure Describes (directory key : String) (p : Package) (entry : StoredPackage) : Prop where
  /-- The entry is that of the key. -/
  reference : entry.reference = key
  /-- The digest is that of the package. -/
  digest : entry.digest = p.digest
  /-- The size is that of the package. -/
  size : entry.size = p.size
  /-- The entry says of the program what the package says. -/
  info : entry.info = p.config.info
  /-- The path is that of the directory of the package. -/
  path : entry.path = packagePath directory p.digest

/-- An index describes the packages that are bound, and has no other entries. -/
structure Indexed (b : Bindings) (directory : String) (index : Dictionary StoredPackage) :
    Prop where
  absent : ∀ key, b key = none → index.get? key = none
  present : ∀ key p, b key = some p →
    ∃ entry, index.get? key = some entry ∧ Describes directory key p entry

/-- **The invariant of a store.** The index describes the map and the shelf holds its
packages. -/
structure Represents (b : Bindings) (home : Location) (s : PackageStore) (w : World) :
    Prop where
  indexed : Indexed b s.directory s.index
  stocked : Stocked b.Holds s.directory home w

variable {b : Bindings} {home : Location} {s : PackageStore} {w : World} {ps : List Package}
  {directory : String} {index : Dictionary StoredPackage}

namespace Indexed

theorem describes (indexed : Indexed b directory index) {key : String} {entry : StoredPackage}
    (found : index.get? key = some entry) :
    ∃ p, b key = some p ∧ Describes directory key p entry := by
  cases bound : b key with
  | none =>
      rw [indexed.absent key bound] at found
      cases found
  | some p =>
      obtain ⟨other, there, described⟩ := indexed.present key p bound
      rw [found] at there
      obtain rfl := Option.some.inj there
      exact ⟨p, rfl, described⟩

theorem insert (indexed : Indexed b directory index) {key : String} {p : Package}
    {entry : StoredPackage} (described : Describes directory key p entry) :
    Indexed (b.set key (some p)) directory (index.insert key entry) := by
  constructor
  · intro other unbound
    by_cases same : other = key
    · rw [same, Bindings.set_self] at unbound
      cases unbound
    · rw [Bindings.set_of_ne b _ same] at unbound
      rw [Dictionary.get?_insert_of_ne index entry same]
      exact indexed.absent other unbound
  · intro other q bound
    by_cases same : other = key
    · subst same
      rw [Bindings.set_self] at bound
      obtain rfl := Option.some.inj bound
      exact ⟨entry, Dictionary.get?_insert_self _ _ _, described⟩
    · rw [Bindings.set_of_ne b _ same] at bound
      rw [Dictionary.get?_insert_of_ne index entry same]
      exact indexed.present other q bound

theorem erase (indexed : Indexed b directory index) (key : String) :
    Indexed (b.set key none) directory (index.erase key) := by
  constructor
  · intro other unbound
    by_cases same : other = key
    · rw [same, Dictionary.get?_erase_self]
    · rw [Bindings.set_of_ne b _ same] at unbound
      rw [Dictionary.get?_erase_of_ne index same]
      exact indexed.absent other unbound
  · intro other q bound
    by_cases same : other = key
    · rw [same, Bindings.set_self] at bound
      cases bound
    · rw [Bindings.set_of_ne b _ same] at bound
      rw [Dictionary.get?_erase_of_ne index same]
      exact indexed.present other q bound

/-- The digest of a package is used exactly if the package is bound. -/
theorem used_iff (indexed : Indexed b directory index) (told : Package.Told ps)
    (known : ∀ q, b.Holds q → q ∈ ps) {p : Package} (listed : p ∈ ps) :
    Used index p.digest ↔ b.Holds p := by
  constructor
  · rintro ⟨key, entry, found, same⟩
    obtain ⟨q, bound, described⟩ := indexed.describes found
    have equal : q.digest = p.digest := described.digest.symm.trans same
    rw [← Package.eq_of_digest_eq told (known q ⟨key, bound⟩) listed equal]
    exact ⟨key, bound⟩
  · rintro ⟨key, bound⟩
    obtain ⟨entry, found, described⟩ := indexed.present key p bound
    exact ⟨key, entry, found, described.digest⟩

end Indexed

/-- **The beginning.** A store that is opened where nothing stands below the place of its
directory represents the map in which no key is bound. -/
theorem represents_of_openAt {before : World} (quiet : before.Quiet)
    (standing : before.tree.node? before.working = some .directory)
    (direct : Direct before.working directory)
    (fresh : before.tree.Bare (spot before.working directory))
    (opened : Runs (openAt directory) before (.ok s) w) :
    Represents Bindings.none (spot before.working directory) s w := by
  obtain ⟨rfl, stocked⟩ := openAt_of_bare opened quiet standing direct fresh
  refine ⟨⟨fun _ _ => rfl, fun _ _ bound => nomatch bound⟩, stocked.of_iff fun q => ?_⟩
  exact iff_false_intro (Bindings.not_holds_none q)

theorem Probe.represents : Represents Bindings.none ["store"] Probe.store Probe.world :=
  represents_of_openAt Probe.quiet Probe.standing Probe.direct Probe.fresh Probe.opened

end BpfDepot.PackageStore
