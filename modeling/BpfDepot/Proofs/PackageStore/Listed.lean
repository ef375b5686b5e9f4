import BpfDepot.Listing
import BpfDepot.Proofs.PackageStore.Agreement
import BpfDepot.Proofs.PackageStore.Failure
import BpfDepot.Proofs.PackageStore.Filing
import BpfDepot.Proofs.PackageStore.Recovery
import BpfDepot.Proofs.Text.Order

/-! # Listed references

What a store lists can be used: every entry that can be found is listed once, in the order of
the bytes of the references, and the reference of a listed entry refers to that entry and to no
other one, whatever is done with it. In the row that is shown of it the reference can be put
together again (`PackageStore.listed_of_reached`). This holds of every handle that is reached
from an empty directory, also if calls fail on the way or are broken off
(`PackageStore.Reached`).
-/

namespace BpfDepot

/-- The reference as a row tells it: the repository, the tag if the reference has one, and the
digest if it has one. -/
def Row.spelled (row : Row) (r : Reference) : String :=
  row.repository ++ (if r.tag.isSome then ":" ++ row.tag else "") ++
    (match r.digest with | some digest => "@" ++ digest | none => "")

/-- A reference with nothing left out is read, and the row tells it. -/
theorem Row.spelled_ofStored {entry : StoredPackage}
    (canonical : Reference.canonical entry.reference = .ok entry.reference) (now : Instant) :
    ∃ r, Reference.parse entry.reference = .ok r ∧
      (Row.ofStored now entry).spelled r = entry.reference := by
  unfold Reference.canonical at canonical
  cases read : Reference.parse entry.reference with
  | error fault =>
      rw [read] at canonical
      cases canonical
  | ok r =>
      rw [read] at canonical
      refine ⟨r, rfl, Eq.trans ?_ (Except.ok.inj canonical)⟩
      unfold Row.spelled Row.ofStored Reference.full
      rw [read]
      obtain ⟨registry, repository, tag, digest⟩ := r
      cases tag <;> cases digest <;> simp

namespace PackageStore

open FileTree World

variable {directory text key : String} {s s' : PackageStore} {w w' : World} {entry : StoredPackage}

/-- **Handles** that are reached from a directory with nothing in it, which nobody else touches.
Operations and attempts to open the directory again may fail, and calls may be broken off at any
point. -/
inductive Reached (directory : String) : PackageStore → World → Prop
  | opened {before w : World} {s : PackageStore}
      (fresh : before.tree.Bare (spot before.working directory))
      (runs : Runs (openAt directory) before (.ok s) w) : Reached directory s w
  /-- An operation is carried out, or fails. -/
  | change {s s' : PackageStore} {w w' : World} {operation : Operation}
      {result : Except Error (Option StoredPackage)} (reached : Reached directory s w)
      (clock : ∀ i, (w.clock i).Valid) (small : ∀ p ∈ operation.packages, p.size < 2 ^ 64)
      (carried : Operates operation.carryOut s w result s' w') : Reached directory s' w'
  /-- The handle is dropped, and the directory is opened again. -/
  | reopen {s t : PackageStore} {w w' : World} (reached : Reached directory s w)
      (runs : Runs (openAt directory) w (.ok t) w') : Reached directory t w'
  /-- The directory could not be opened again, and the handle is still there. -/
  | refused {s : PackageStore} {w w' : World} {error : Error} (reached : Reached directory s w)
      (runs : Runs (openAt directory) w (.error error) w') : Reached directory s w'
  /-- What is not in the file system may change at any time. -/
  | meanwhile {s : PackageStore} {w w' : World} (reached : Reached directory s w)
      (tree : w'.tree = w.tree) (working : w'.working = w.working) : Reached directory s w'

/-- **The invariant** holds of every handle that is reached. -/
theorem Reached.orderly (reached : Reached directory s w) : Orderly directory s w := by
  induction reached with
  | opened fresh runs =>
      refine orderly_of_openAt (fun entries filed => ?_) runs
      obtain ⟨bytes, text, file, -⟩ := filed
      rw [fresh _ (List.prefix_append _ _) (by simp)] at file
      cases file
  | change _ clock small carried orderly => exact orderly.carryOut clock small carried
  | reopen _ runs orderly => exact orderly_of_openAt orderly.filed runs
  | refused _ runs orderly => exact orderly.onward unfiling_openAt runs
  | meanwhile _ tree working orderly => exact orderly.of_tree_eq tree working

/-! ## Using a reference -/

/-- The entry under another reference, bound at a time. -/
def renamed (entry : StoredPackage) (key : String) (created : Instant) : StoredPackage :=
  { entry with reference := key, created }

/-- A text refers to an entry of a handle and to no other one, whatever is done with it. -/
structure Refers (s : PackageStore) (text : String) (entry : StoredPackage) : Prop where
  get : s.get? text = some entry
  /-- What is loaded is the package in the directory of the entry. -/
  load : (s.load text : ExceptT Error WorldM Package) = readPackage entry.path
  /-- Tagging binds a copy of the entry. -/
  tagged : ∀ target key w result s' w', Reference.canonical target = .ok key →
    Operates (PackageStore.tag text target) s w result s' w' →
      s' = { s with index := s.index.insert key (renamed entry key (w.clock w.readings)) } ∧
        ∀ bound, result = .ok bound → bound = renamed entry key (w.clock w.readings)
  /-- Removing unbinds the entry and removes its directory if that is not used any more. -/
  removed : ∀ w result s' w', Operates (PackageStore.remove text) s w result s' w' →
    s' = { s with index := s.index.erase entry.reference } ∧
      Runs (align s' (some entry)) w result w'
  /-- Whatever is bound or unbound under the text, the entry is what is replaced, and all others
  stay. -/
  replaced : ∀ (operation : Operation) w (change : Change) s' w', operation.subject = text →
    Operates operation.prepare s w (.ok change) s' w' → change.replaced = some entry ∧
      ∀ key, key ≠ entry.reference → change.index.get? key = s.index.get? key

theorem tag_cases {target : String} {result : Except Error StoredPackage}
    (found : s.get? text = some entry) (canonical : Reference.canonical target = .ok key)
    (tags : Operates (PackageStore.tag text target) s w result s' w') :
    s' = { s with index := s.index.insert key (renamed entry key (w.clock w.readings)) } ∧
      ∀ bound, result = .ok bound → bound = renamed entry key (w.clock w.readings) := by
  rw [tag_eq] at tags
  have further := (operates_copyEntry found canonical).rest tags
  rcases Operates.bind_cases further with ⟨error, failed, rfl⟩ | ⟨_, t, v, bound, last⟩
  · exact ⟨(align_of_commit ((Operates.get _ _).rest failed)).1, nofun⟩
  · obtain ⟨rfl, rfl, -⟩ := (Operates.pure _ _ _).unique last
    refine ⟨(align_of_commit ((Operates.get _ _).rest bound)).1, ?_⟩
    rintro _ ⟨⟩
    rfl

theorem remove_cases {result : Except Error Unit} (canonical : Reference.canonical text = .ok key)
    (found : s.index.get? key = some entry)
    (removes : Operates (PackageStore.remove text) s w result s' w') :
    s' = { s with index := s.index.erase key } ∧ Runs (align s' (some entry)) w result w' := by
  have further := (Operates.get _ _).rest ((keyOf_of_ok canonical s w).rest removes)
  dsimp only at further
  rw [found] at further
  obtain ⟨rfl, aligned⟩ := align_of_commit further
  exact ⟨rfl, aligned⟩

theorem replaced_cases {operation : Operation} {change : Change}
    (canonical : Reference.canonical operation.subject = .ok key)
    (found : s.index.get? key = some entry)
    (prepared : Operates operation.prepare s w (.ok change) s' w') :
    change.replaced = some entry ∧
      ∀ other, other ≠ key → change.index.get? other = s.index.get? other := by
  obtain ⟨name, named, replaced⟩ := replaced_of_prepared prepared
  obtain rfl := Except.ok.inj (canonical.symm.trans named)
  refine ⟨replaced.trans found, fun other apart => index_of_prepared prepared fun same => apart ?_⟩
  exact (Except.ok.inj (canonical.symm.trans same)).symm

/-- A canonical reference under which an entry is bound refers to it. -/
theorem refers_of_bound (canonical : Reference.canonical text = .ok entry.reference)
    (found : s.index.get? entry.reference = some entry) : Refers s text entry := by
  have get : s.get? text = some entry := (get?_of_canonical canonical s).trans found
  refine ⟨get, ?_, fun target key w result s' w' named => tag_cases get named,
    fun w result s' w' => remove_cases canonical found, ?_⟩
  · unfold load
    rw [get]
  · rintro operation w change s' w' rfl prepared
    exact replaced_cases canonical found prepared

/-- **Listed references.** In every store that is reached from an empty directory, whatever
fails on the way: the references of the listed entries ascend strictly in the order of their
bytes; every entry that is found under some text is listed; and the reference of each listed
entry is its own canonical reference, refers to that entry and to no other one, and is told by
the row that is shown of the entry. -/
theorem listed_of_reached (reached : Reached directory s w) :
    s.list.Pairwise (fun a b => a.reference.toUTF8.toList < b.reference.toUTF8.toList) ∧
    (∀ text entry, s.get? text = some entry → entry ∈ s.list) ∧
    ∀ entry ∈ s.list,
      Reference.canonical entry.reference = .ok entry.reference ∧
      Refers s entry.reference entry ∧
      ∀ now, ∃ r, Reference.parse entry.reference = .ok r ∧
        (Row.ofStored now entry).spelled r = entry.reference := by
  have orderly := reached.orderly
  refine ⟨?_, fun text entry found => mem_list_iff.mpr (index_of_get? found), ?_⟩
  · have references (key : String) (entry : StoredPackage) (found : s.index.get? key = some entry) :
        entry.reference = key := (orderly.titling key entry found).1
    refine ((pairwise_list s).and (nodup_list references)).imp_of_mem ?_
    rintro a b here there ⟨least, differ⟩
    refine Text.lt_iff_bytes_lt.mp (lt_of_le_of_ne (of_decide_eq_true least) fun same => differ ?_)
    obtain ⟨key, first⟩ := mem_list_iff.mp here
    obtain ⟨other, second⟩ := mem_list_iff.mp there
    obtain rfl := references key a first
    obtain rfl := references other b second
    rw [same, second] at first
    exact (Option.some.inj first).symm
  · intro entry member
    obtain ⟨key, found⟩ := mem_list_iff.mp member
    obtain ⟨rfl, titled⟩ := orderly.titling key entry found
    exact ⟨titled.canonical, refers_of_bound titled.canonical found,
      Row.spelled_ofStored titled.canonical⟩

/-- A package is put in a store in a missing directory, and its reference can be used. -/
theorem listed_of_reached_probe : ∃ s w, Reached "store" s w ∧ s.list ≠ [] ∧
    s.list.Pairwise (fun a b => a.reference.toUTF8.toList < b.reference.toUTF8.toList) ∧
    (∀ text entry, s.get? text = some entry → entry ∈ s.list) ∧
    ∀ entry ∈ s.list,
      Reference.canonical entry.reference = .ok entry.reference ∧
      Refers s entry.reference entry ∧
      ∀ now, ∃ r, Reference.parse entry.reference = .ok r ∧
        (Row.ofStored now entry).spelled r = entry.reference := by
  have small : ∀ p ∈ (Operation.put "probe" Probe.package).packages, p.size < 2 ^ 64 :=
    Probe.small fun _ => List.mem_singleton.mp
  obtain ⟨result, s, w, -, carried, -⟩ := Probe.kept.carryOut Probe.clock small
  have reached := (Reached.opened Probe.fresh Probe.opened).change Probe.clock small carried
  refine ⟨s, w, reached, ?_, listed_of_reached reached⟩
  have canonical : Reference.canonical "probe" = .ok "docker.io/library/probe:latest" := rfl
  obtain ⟨tree, -, shelved, -⟩ := Probe.kept.stocked.shelve Probe.package
  have changed := Operation.index_of_perform
    (Operation.prepare_put (operates_newEntry canonical shelved))
    (Operation.perform_of_carryOut carried)
  rw [changed]
  exact List.ne_nil_of_mem (mem_list_iff.mpr ⟨_, Dictionary.get?_insert_self _ _ _⟩)

end PackageStore

end BpfDepot
