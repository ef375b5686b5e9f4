import BpfDepot.Proofs.PackageStore.Failure
import BpfDepot.Proofs.Reference.Client

/-! # Spellings of one reference

A client renames the registry and the repository of a reference, and a store does not. So
references that a client resolves alike have one key in a store exactly if they spell the
registry and the folder alike (`Reference.full_eq_iff`), and exactly then a package that is
stored under one of them is found, overwritten and removed under the other
(`PackageStore.interchangeable_iff`).
-/

namespace BpfDepot

/-! ## References -/

namespace Client

theorem snd_rename (registry repository : String) : (rename registry repository).2 =
    if (rename registry repository).1 = Reference.defaultRegistry ∧ '/' ∉ repository.toList then
      Reference.defaultFolder ++ "/" ++ repository
    else repository := by
  rw [fst_rename]
  exact apply_ite Prod.snd _ _ _

/-- Outside the default registry nothing is renamed. -/
theorem rename_of_ne {registry repository : String}
    (ne : (rename registry repository).1 ≠ Reference.defaultRegistry) :
    rename registry repository = (registry, repository) := by
  have plain : registry ≠ legacyRegistry := by
    intro legacy
    rw [fst_rename, if_pos legacy] at ne
    exact ne rfl
  apply Prod.ext
  · rw [fst_rename, if_neg plain]
  · rw [snd_rename, if_neg fun given => ne given.1]

/-- What is renamed to the same is the same if it is spelled alike. -/
theorem eq_of_rename_eq {registry repository host path : String}
    (same : rename registry repository = rename host path)
    (registries : registry = legacyRegistry ↔ host = legacyRegistry)
    (folders : '/' ∈ repository.toList ↔ '/' ∈ path.toList) :
    registry = host ∧ repository = path := by
  constructor
  · have first := congrArg Prod.fst same
    rw [fst_rename, fst_rename] at first
    by_cases legacy : host = legacyRegistry
    · exact (registries.mpr legacy).trans legacy.symm
    · rwa [if_neg legacy, if_neg (registries.not.mpr legacy)] at first
  · have second := congrArg Prod.snd same
    rw [snd_rename, snd_rename, same] at second
    simp only [folders] at second
    split at second
    · exact String.toList_inj.mp (by simpa using congrArg String.toList second)
    · exact second

end Client

namespace Reference

/-- Of two references both or neither have the second name of the default registry, and both or
neither name a folder. -/
structure SpelledAlike (r s : Reference) : Prop where
  registry : r.registry = Client.legacyRegistry ↔ s.registry = Client.legacyRegistry
  folder : '/' ∈ r.repository.toList ↔ '/' ∈ s.repository.toList

variable {text other : String} {r s c : Reference}

theorem eq_of_full_eq (read : parse text = .ok r) (also : parse other = .ok s)
    (same : r.full = s.full) : r = s := by
  have again := parse_full (isCanonical_of_parse read)
  rw [same, parse_full (isCanonical_of_parse also)] at again
  exact (Except.ok.inj again).symm

/-- **Keys.** References that a client resolves alike have one key exactly if they are spelled
alike. -/
theorem full_eq_iff (read : parse text = .ok r) (also : parse other = .ok s)
    (resolved : Registry.clientReference r = .ok c)
    (alike : Registry.clientReference s = .ok c) : r.full = s.full ↔ r.SpelledAlike s := by
  obtain ⟨-, tag, digest, renamed⟩ := resolve_of_clientReference read resolved
  obtain ⟨-, tag', digest', renamed'⟩ := resolve_of_clientReference also alike
  constructor
  · intro same
    rw [eq_of_full_eq read also same]
    exact ⟨Iff.rfl, Iff.rfl⟩
  · intro spelled
    obtain ⟨registry, repository⟩ :=
      Client.eq_of_rename_eq (renamed.symm.trans renamed') spelled.registry spelled.folder
    have equal : r = s := by
      cases r
      cases s
      rw [mk.injEq]
      exact ⟨registry, repository, tag.symm.trans tag', digest.symm.trans digest'⟩
    rw [equal]

/-- Outside the default registry there is one spelling only. -/
theorem spelledAlike_of_ne (read : parse text = .ok r) (also : parse other = .ok s)
    (resolved : Registry.clientReference r = .ok c) (alike : Registry.clientReference s = .ok c)
    (ne : c.registry ≠ defaultRegistry) : r.SpelledAlike s := by
  have plain {text : String} {r : Reference} (read : parse text = .ok r)
      (resolved : Registry.clientReference r = .ok c) :
      (c.registry, c.repository) = (r.registry, r.repository) := by
    obtain ⟨-, -, -, renamed⟩ := resolve_of_clientReference read resolved
    apply renamed.trans
    apply Client.rename_of_ne
    rwa [← renamed]
  obtain ⟨registry, repository⟩ := Prod.mk.inj ((plain read resolved).symm.trans (plain also alike))
  constructor
  · rw [registry]
  · rw [repository]

end Reference

/-! ## Entries -/

namespace PackageStore

variable {text other key name : String} {r s c : Reference}

/-- **One entry.** What is stored under one text is found, overwritten and removed under the other
one. -/
structure Interchangeable (text other : String) : Prop where
  /-- The texts have the same entry on every handle. -/
  found : ∀ h : PackageStore, h.get? other = h.get? text
  /-- The package of the entry is loaded under either text. -/
  loaded : ∀ h : PackageStore, (h.get? text).isSome →
    (h.load other : ExceptT Error WorldM Package) = h.load text
  /-- What is put under one text is the entry of the other. -/
  overwritten : ∀ p h w entry h' w',
    Operates (PackageStore.put other p) h w (.ok entry) h' w' → h'.get? text = some entry
  /-- An entry is removed under either text. -/
  removed : ∀ h w result h' w', (h.get? text).isSome →
    Operates (PackageStore.remove other) h w result h' w' →
      Operates (PackageStore.remove text) h w result h' w' ∧ h'.get? text = none

theorem interchangeable_of_canonical (canonical : Reference.canonical text = .ok key)
    (also : Reference.canonical other = .ok key) : Interchangeable text other := by
  have found (h : PackageStore) : h.get? other = h.get? text := by
    rw [get?_of_canonical also, get?_of_canonical canonical]
  constructor
  · exact found
  · intro h present
    obtain ⟨entry, bound⟩ := Option.isSome_iff_exists.mp present
    unfold load
    rw [found, bound]
  · intro p h w entry h' w' stored
    obtain ⟨_, v, u, events, read, -, rfl, rfl, -, -⟩ := of_put_ok stored
    obtain rfl := Except.ok.inj (also.symm.trans read)
    rw [get?_of_canonical canonical]
    exact Dictionary.get?_insert_self _ _ _
  · intro h w result h' w' present removed
    obtain ⟨entry, bound⟩ := Option.isSome_iff_exists.mp present
    rw [get?_of_canonical canonical] at bound
    have prepared := Operation.prepare_remove (w := w) also bound
    have performed : Operates (Operation.remove other).perform h w result h' w' := removed
    constructor
    · change Operates (Operation.remove text).perform h w result h' w'
      rw [Operation.perform_eq] at performed ⊢
      exact (Operation.prepare_remove canonical bound).bind (prepared.rest performed)
    · rw [get?_of_canonical canonical, Operation.index_of_perform prepared performed]
      exact Dictionary.get?_erase_self _ _

/-- Texts that share their entry have the same key. -/
theorem Interchangeable.key_eq (same : Interchangeable text other)
    (canonical : Reference.canonical text = .ok key)
    (also : Reference.canonical other = .ok name) : key = name := by
  let p : Package := { program := ⟨#[]⟩, config := { info := "" } }
  let entry := entryOf "" key p ⟨⟨1970, 1, 1⟩, 0, 0, 0, 0⟩
  let h : PackageStore :=
    { directory := "", index := (∅ : Dictionary StoredPackage).insert key entry }
  have bound : h.get? text = some entry := by
    rw [get?_of_canonical canonical]
    exact Dictionary.get?_insert_self _ _ _
  by_contra ne
  rw [← same.found, get?_of_canonical also] at bound
  exact nomatch (Dictionary.get?_insert_of_ne ∅ entry (Ne.symm ne)).symm.trans bound

/-- **Spellings.** Texts that a client resolves alike have one key exactly if they spell the
registry and the folder alike, and outside the default registry they do. Exactly if they have one
key they share their entry: what is stored under one is found, overwritten and removed under the
other. -/
theorem interchangeable_iff (read : Reference.parse text = .ok r)
    (also : Reference.parse other = .ok s) (resolved : Registry.clientReference r = .ok c)
    (alike : Registry.clientReference s = .ok c) :
    (r.full = s.full ↔ r.SpelledAlike s) ∧
      (c.registry ≠ Reference.defaultRegistry → r.full = s.full) ∧
      (r.full = s.full ↔ Interchangeable text other) := by
  have canonical : Reference.canonical text = .ok r.full := by
    unfold Reference.canonical
    rw [read]
    rfl
  have named : Reference.canonical other = .ok s.full := by
    unfold Reference.canonical
    rw [also]
    rfl
  have keys := Reference.full_eq_iff read also resolved alike
  refine ⟨keys, fun ne => ?_, fun same => ?_, fun same => ?_⟩
  · exact keys.mpr (Reference.spelledAlike_of_ne read also resolved alike ne)
  · exact interchangeable_of_canonical canonical (same ▸ named)
  · exact same.key_eq canonical named

/-- Both texts have the second name of the default registry, and neither one has a folder. -/
theorem interchangeable_iff_legacy :
    let r : Reference := ⟨"index.docker.io", "probe", some "latest", none⟩
    let c : Reference := ⟨"docker.io", "library/probe", some "latest", none⟩
    Reference.parse "index.docker.io/probe" = .ok r ∧
      Reference.parse " index.docker.io/probe:latest" = .ok r ∧
      Registry.clientReference r = .ok c ∧
      (r.full = r.full ↔ r.SpelledAlike r) ∧
      (c.registry ≠ Reference.defaultRegistry → r.full = r.full) ∧
      (r.full = r.full ↔ Interchangeable "index.docker.io/probe" " index.docker.io/probe:latest") :=
  ⟨rfl, rfl, rfl, interchangeable_iff rfl rfl rfl rfl⟩

/-- A client puts a folder in front where a store does not, so a package that is stored under one
text is not found under the other. -/
theorem spelling_matters :
    ∃ r s c, Reference.parse "probe" = .ok r ∧ Reference.parse "docker.io/probe" = .ok s ∧
      Registry.clientReference r = .ok c ∧ Registry.clientReference s = .ok c ∧
      r.full ≠ s.full ∧ ¬ Interchangeable "probe" "docker.io/probe" := by
  refine ⟨_, _, _, rfl, rfl, rfl, rfl, by decide, fun same => ?_⟩
  exact absurd (same.key_eq rfl rfl) (by decide)

end PackageStore

end BpfDepot
