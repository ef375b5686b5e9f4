import BpfDepot.Proofs.PackageStore.Kept
import BpfDepot.Proofs.PackageStore.Refinement

/-! # Several handles on one directory

Handles on one directory do not hear of each other. Each has its own map, which only its own
operations and its reopenings change, and writes the whole of it to the file of the index;
and each takes packages away that its own map does not hold any more (`PackageStore.Shared`).
So what is found when the directory is opened again is the map of the handle that changed it
last, as far as its packages are still there, and that can be less than what the latest
operations say (`PackageStore.update_lost`). It is what they say if every handle has been
opened again before it changes what another one has changed
(`PackageStore.shared_directory`).
-/

namespace BpfDepot.PackageStore

open FileTree World

/-! ## Turns -/

/-- What one of several handles on a directory does. -/
inductive Turn (ι : Type) where
  | call (handle : ι) (operation : Operation)
  /-- The handle is dropped, and the directory is opened again. -/
  | reopen (handle : ι)

namespace Turn

variable {ι : Type}

/-- The handle whose turn it is. -/
def handle : Turn ι → ι
  | .call handle _ => handle
  | .reopen handle => handle

/-- The packages that a turn brings. -/
def packages : Turn ι → List Package
  | .call _ operation => operation.packages
  | .reopen _ => []

section Programs

variable {m : Type → Type} [Monad m] [Host m]

/-- What the handle does. -/
def program : Turn ι → StoreM m Unit
  | .call _ operation => operation.perform
  | .reopen _ => do
    let s ← get
    set (← outside (openAt (m := m) s.directory))

/-- Takes a turn as one step, also when it fails, and gives back what became of it. -/
def take [DecidableEq ι] (turn : Turn ι) : StateT (ι → PackageStore) m (Except Error Unit) :=
  fun handles => do
    let (result, s) ← turn.program.run.run (handles turn.handle)
    return (result, Function.update handles turn.handle s)

end Programs

end Turn

/-- Takes turns one after the other. -/
def takeAll {ι : Type} [DecidableEq ι] (turns : List (Turn ι)) :
    StateT (ι → PackageStore) WorldM (List (Except Error Unit)) := turns.mapM Turn.take

/-! ## What the handles know -/

/-- The keys that are bound to packages on a shelf. -/
noncomputable def Bindings.within (b : Bindings) (shelf : Package → Prop) : Bindings :=
  open Classical in fun key => (b key).filter fun p => decide (shelf p)

/-- The map after an operation on a handle, of which only the key of the subject is seen. -/
def Bindings.follow (b : Bindings) (operation : Operation) (b' : Bindings) : Bindings :=
  match Reference.canonical operation.subject with
  | .ok key => b.set key (b' key)
  | .error _ => b

/-- What there is to know of a directory with several handles. -/
structure Shared (ι : Type) where
  /-- The map of each handle. -/
  maps : ι → Bindings
  /-- The packages that are there. -/
  shelf : Package → Prop
  /-- The map in the file of the index. -/
  saved : Bindings
  /-- What each key was bound to by the latest operation on it that succeeded, whichever
  handle it was carried out on. -/
  latest : Bindings
  /-- The handles that carried out the latest operation that succeeded, or have been opened
  after it. -/
  current : ι → Prop

namespace Shared

variable {ι : Type}

/-- Nothing is bound, and all handles know it. -/
def empty : Shared ι where
  maps := fun _ => .none
  shelf := fun _ => False
  saved := .none
  latest := .none
  current := fun _ => True

/-- What is found when the directory is opened. -/
noncomputable def found (a : Shared ι) : Bindings := a.saved.within a.shelf

/-- **What a turn does.** An operation has its effect on the map of its handle, and writes
this map. -/
noncomputable def after [DecidableEq ι] (a : Shared ι) : Turn ι → Shared ι
  | .call handle operation =>
    match operation.effect (a.maps handle) with
    | none => a
    | some b => {
        maps := Function.update a.maps handle b
        shelf := operation.shelfAfter (a.maps handle) b a.shelf
        saved := b
        latest := a.latest.follow operation b
        current := (· = handle) }
  | .reopen handle =>
    { a with
      maps := Function.update a.maps handle a.found
      current := fun other => other = handle ∨ a.current other }

/-- Whether a turn succeeds. -/
def allows (a : Shared ι) : Turn ι → Bool
  | .call handle operation => (operation.effect (a.maps handle)).isSome
  | .reopen _ => true

/-- Which of the turns that are taken one after the other succeed. -/
noncomputable def allowed [DecidableEq ι] : Shared ι → List (Turn ι) → List Bool
  | _, [] => []
  | a, turn :: rest => a.allows turn :: (a.after turn).allowed rest

/-- Only handles that know what is saved change it. -/
def Timely [DecidableEq ι] : Shared ι → List (Turn ι) → Prop
  | _, [] => True
  | a, turn :: rest =>
    (∀ handle operation, turn = .call handle operation → a.allows turn = true →
      a.current handle) ∧ (a.after turn).Timely rest

end Shared

/-! ## Maps and shelves -/

section Maps

variable {b b' : Bindings} {shelf : Package → Prop} {key : String} {p : Package}
  {operation : Operation}

namespace Bindings

theorem within_eq_some : b.within shelf key = some p ↔ b key = some p ∧ shelf p := by
  classical
  unfold within
  rw [Option.filter_eq_some_iff, decide_eq_true_eq]

/-- A map whose packages are all on the shelf is found as it is. -/
theorem within_of_held (held : ∀ q, b.Holds q → shelf q) : b.within shelf = b := by
  funext key
  refine Option.ext fun p => within_eq_some.trans (and_iff_left_of_imp fun bound => ?_)
  exact held p ⟨key, bound⟩

theorem holds_of_within (holds : (b.within shelf).Holds p) : b.Holds p ∧ shelf p := by
  obtain ⟨key, bound⟩ := holds
  obtain ⟨there, held⟩ := within_eq_some.mp bound
  exact ⟨⟨key, there⟩, held⟩

/-- An operation changes its map under the key of the subject only. -/
theorem follow_of_effect (effect : operation.effect b = some b') : b.follow operation b' = b' := by
  have only (key : String) (package : Option Package)
      (canonical : Reference.canonical operation.subject = .ok key) :
      b.follow operation (b.set key package) = b.set key package := by
    unfold follow
    rw [canonical]
    dsimp only
    rw [set_self]
  cases operation with
  | put text p =>
      simp only [Operation.effect] at effect
      split at effect
      · next key canonical =>
        obtain rfl := Option.some.inj effect
        exact only key _ canonical
      · cases effect
  | tag source target =>
      simp only [Operation.effect] at effect
      split at effect
      · next p key bound canonical =>
        obtain rfl := Option.some.inj effect
        exact only key _ canonical
      · cases effect
  | remove text =>
      simp only [Operation.effect] at effect
      split at effect
      · next key canonical =>
        split at effect
        · obtain rfl := Option.some.inj effect
          exact only key _ canonical
        · cases effect
      · cases effect

end Bindings

end Maps

/-! ## Handles that know what is saved -/

namespace Shared

variable {ι : Type} {a : Shared ι}

/-- What is saved is what the latest operations say, and the current handles know it. -/
structure Faithful (a : Shared ι) : Prop where
  saved : a.saved = a.latest
  held : ∀ q, a.latest.Holds q → a.shelf q
  known : ∀ handle, a.current handle → a.maps handle = a.latest

theorem faithful_empty : (empty : Shared ι).Faithful :=
  ⟨rfl, fun q holds => absurd holds (Bindings.not_holds_none q), fun _ _ => rfl⟩

theorem Faithful.found_eq (faithful : a.Faithful) : a.found = a.latest := by
  unfold found
  rw [faithful.saved]
  exact Bindings.within_of_held faithful.held

variable [DecidableEq ι]

theorem after_of_no_effect {handle : ι} {operation : Operation}
    (effect : operation.effect (a.maps handle) = none) : a.after (.call handle operation) = a := by
  unfold after
  simp only [effect]

theorem after_of_effect {handle : ι} {operation : Operation} {b : Bindings}
    (effect : operation.effect (a.maps handle) = some b) : a.after (.call handle operation) = {
      maps := Function.update a.maps handle b
      shelf := operation.shelfAfter (a.maps handle) b a.shelf
      saved := b
      latest := a.latest.follow operation b
      current := (· = handle) } := by
  unfold after
  simp only [effect]

/-- **Steps.** An operation on a handle that knows what is saved keeps it so. -/
theorem Faithful.after (faithful : a.Faithful) {turn : Turn ι}
    (timely : ∀ handle operation, turn = .call handle operation → a.allows turn = true →
      a.current handle) : (a.after turn).Faithful := by
  cases turn with
  | call handle operation =>
      cases effect : operation.effect (a.maps handle) with
      | none =>
          rw [after_of_no_effect effect]
          exact faithful
      | some b =>
          have map : a.maps handle = a.latest :=
            faithful.known handle (timely handle operation rfl (by rw [allows, effect]; rfl))
          have followed : a.latest.follow operation b = b :=
            Bindings.follow_of_effect (map ▸ effect)
          rw [after_of_effect effect, followed]
          refine ⟨rfl, fun q holds => ⟨?_, fun _ => holds⟩, ?_⟩
          · refine (Bindings.holds_of_effect effect holds).imp_left fun before => ?_
            exact faithful.held q (map ▸ before)
          · rintro _ rfl
            exact Function.update_self _ _ _
  | reopen handle =>
      refine ⟨faithful.saved, faithful.held, fun other knows => ?_⟩
      change Function.update a.maps handle a.found other = a.latest
      by_cases same : other = handle
      · rw [same, Function.update_self, faithful.found_eq]
      · rw [Function.update_of_ne same]
        exact faithful.known other (knows.resolve_left same)

/-- **Runs.** If only handles that know what is saved change it, then what is found is what the
latest operations say. -/
theorem Faithful.afterAll (faithful : a.Faithful) {turns : List (Turn ι)}
    (timely : a.Timely turns) : (turns.foldl Shared.after a).Faithful := by
  induction turns generalizing a with
  | nil => exact faithful
  | cons turn rest ih => exact ih (faithful.after timely.1) timely.2

end Shared

/-! ## Directories -/

variable {ι : Type} {b : Bindings} {shelf : Package → Prop} {home : Location}
  {s : PackageStore} {w : World} {ps : List Package} {directory : String} {p : Package}

/-- A package is found in its directory exactly if it is on the shelf. -/
theorem Stocked.present_iff (stocked : Stocked shelf directory home w) (told : Package.Told ps)
    (there : ∀ q, shelf q → q ∈ ps) (listed : p ∈ ps) :
    (w.tree.kind? w.working (packagePath directory p.digest)).isSome = true ↔ shelf p := by
  change (w.tree.kind? w.working (Path.join (Path.join directory shelfName) p.folder)).isSome = true
    ↔ shelf p
  by_cases held : shelf p
  · have lies := stocked.lies held
    rw [kind?_join (stocked.at_home.join isName_shelf lies.shelf) p.isName_folder, lies.place]
    exact iff_of_true rfl held
  · rw [stocked.kind?_of_free p.isName_folder fun q here same => held (by
      rwa [← Package.eq_of_digest_eq told (there q here) listed
        (Package.digest_eq_of_folder_eq same)])]
    exact iff_of_false nofun held

/-- A handle on a directory has the entries of a map. -/
structure Tracks (b : Bindings) (directory : String) (s : PackageStore) : Prop where
  place : s.directory = directory
  indexed : Indexed b directory s.index
  dated : ∀ key entry, s.index.get? key = some entry → entry.created.Valid

namespace Tracks

theorem storable (tracks : Tracks b directory s) (small : ∀ q, b.Holds q → q.size < 2 ^ 64)
    {key : String} {entry : StoredPackage} (found : s.index.get? key = some entry) :
    entry.Storable := by
  obtain ⟨p, bound, described⟩ := tracks.indexed.describes found
  refine ⟨?_, tracks.dated key entry found⟩
  rw [described.size]
  exact small p ⟨key, bound⟩

/-- **Opening.** When the file holds the entries of a map, the directory is opened with those of
the packages that are there. -/
theorem openAt (tracks : Tracks b directory s) (stocked : Stocked shelf directory home w)
    (filed : Filed w.tree home s.list ∨ w.tree.node? (home ++ [indexName]) = none ∧ s.list = [])
    (told : Package.Told ps) (there : ∀ q, shelf q → q ∈ ps) (known : ∀ q, b.Holds q → q ∈ ps) :
    ∃ r, Runs (PackageStore.openAt directory) w (.ok r) w ∧
      Tracks (b.within shelf) directory r := by
  have described {key : String} {entry : StoredPackage} (found : s.index.get? key = some entry) :=
    tracks.indexed.describes found
  obtain ⟨index, read, found⟩ := readIndex_of_list stocked.at_home stocked.quiet
    (fun key entry bound => (described bound).choose_spec.2.reference) filed
  have iff {key : String} {entry : StoredPackage} : index.get? key = some entry ↔
      s.index.get? key = some entry ∧
        ∃ p, b.within shelf key = some p ∧ Describes directory key p entry := by
    rw [found]
    refine and_congr_right fun bound => ?_
    obtain ⟨p, held, tells⟩ := described bound
    rw [tells.path, stocked.present_iff told there (known p ⟨key, held⟩)]
    constructor
    · exact fun here => ⟨p, Bindings.within_eq_some.mpr ⟨held, here⟩, tells⟩
    · rintro ⟨q, within, -⟩
      obtain ⟨other, here⟩ := Bindings.within_eq_some.mp within
      rw [held] at other
      exact Option.some.inj other ▸ here
  refine ⟨_, openAt_of_readIndex stocked.at_home stocked.quiet read, rfl, ⟨?_, ?_⟩, ?_⟩
  · intro key absent
    refine Option.eq_none_iff_forall_ne_some.mpr fun entry bound => ?_
    obtain ⟨-, p, within, -⟩ := iff.mp bound
    rw [absent] at within
    cases within
  · intro key p within
    obtain ⟨bound, -⟩ := Bindings.within_eq_some.mp within
    obtain ⟨entry, had, tells⟩ := tracks.indexed.present key p bound
    exact ⟨entry, iff.mpr ⟨had, p, within, tells⟩, tells⟩
  · exact fun key entry bound => tracks.dated key entry (iff.mp bound).1

end Tracks

/-! ## Sharing a directory -/

section Sharing

variable {a : Shared ι} {handles : ι → PackageStore}

/-- **The invariant of handles on a directory.** The handles have the entries of their maps, the
file of the index has those of the map that is saved, and the directory has the packages on
the shelf. All packages are among some. -/
structure Sharing (a : Shared ι) (ps : List Package) (directory : String) (home : Location)
    (handles : ι → PackageStore) (w : World) : Prop where
  stocked : Stocked a.shelf directory home w
  tracks : ∀ i, Tracks (a.maps i) directory (handles i)
  saved : ∃ s, Tracks a.saved directory s ∧
    (Filed w.tree home s.list ∨ w.tree.node? (home ++ [indexName]) = none ∧ s.list = [])
  there : ∀ q, a.shelf q → q ∈ ps
  known : ∀ i q, (a.maps i).Holds q → q ∈ ps
  remembered : ∀ q, a.saved.Holds q → q ∈ ps

theorem Sharing.views (sharing : Sharing a ps directory home handles w) (i : ι) :
    Views (a.maps i) a.shelf home (handles i) w := by
  have tracks := sharing.tracks i
  constructor
  · rw [tracks.place]
    exact tracks.indexed
  · rw [tracks.place]
    exact sharing.stocked

/-- What is found when the directory is opened. -/
theorem Sharing.openAt (sharing : Sharing a ps directory home handles w)
    (told : Package.Told ps) : ∃ r, Runs (PackageStore.openAt directory) w (.ok r) w ∧
      Tracks a.found directory r ∧ Answers a.found r w := by
  obtain ⟨s, tracks, filed⟩ := sharing.saved
  obtain ⟨r, opened, finds⟩ :=
    tracks.openAt sharing.stocked filed told sharing.there sharing.remembered
  have views : Views a.found a.shelf home r w := by
    constructor
    · rw [finds.place]
      exact finds.indexed
    · rw [finds.place]
      exact sharing.stocked
  exact ⟨r, opened, finds, views.answers fun q holds => (Bindings.holds_of_within holds).2⟩

variable [DecidableEq ι]

/-- A turn is taken as its handle does what it does. -/
theorem run_take (turn : Turn ι) {result : Except Error Unit} {s' : PackageStore} {w' : World}
    (operates : Operates turn.program (handles turn.handle) w result s' w') :
    (turn.take (m := WorldM)).run handles w =
      ((result, Function.update handles turn.handle s'), w') := by
  have ran : (turn.program (m := WorldM)) (handles turn.handle) w = ((result, s'), w') := operates
  simp only [Turn.take, StateT.run, ExceptT.run, Bind.bind, StateT.bind, ran]
  rfl

theorem tracks_update (tracks : ∀ i, Tracks (a.maps i) directory (handles i)) {i : ι}
    (new : Tracks b directory s) (j : ι) :
    Tracks (Function.update a.maps i b j) directory (Function.update handles i s j) := by
  by_cases same : j = i
  · subst same
    rw [Function.update_self, Function.update_self]
    exact new
  · rw [Function.update_of_ne same, Function.update_of_ne same]
    exact tracks j

theorem known_update (known : ∀ i q, (a.maps i).Holds q → q ∈ ps) {i : ι}
    (new : ∀ q, b.Holds q → q ∈ ps) (j : ι) (q : Package)
    (holds : (Function.update a.maps i b j).Holds q) : q ∈ ps := by
  by_cases same : j = i
  · subst same
    rw [Function.update_self] at holds
    exact new q holds
  · rw [Function.update_of_ne same] at holds
    exact known j q holds

/-- An operation on a handle keeps the invariant. -/
theorem Sharing.call (sharing : Sharing a ps directory home handles w) (told : Package.Told ps)
    (small : ∀ q ∈ ps, q.size < 2 ^ 64) (clock : ∀ i, (w.clock i).Valid) {handle : ι}
    {operation : Operation} (brought : ∀ p ∈ operation.packages, p ∈ ps) :
    ∃ result s' w', Operates operation.perform (handles handle) w result s' w' ∧
      result.isOk = (operation.effect (a.maps handle)).isSome ∧
      Sharing (a.after (.call handle operation)) ps directory home
        (Function.update handles handle s') w' ∧ w'.clock = w.clock := by
  have views := sharing.views handle
  have tracks := sharing.tracks handle
  cases effect : operation.effect (a.maps handle) with
  | none =>
      obtain ⟨error, performed⟩ := views.indexed.perform_of_no_effect w effect
      refine ⟨_, _, _, performed, rfl, ?_, rfl⟩
      rw [Shared.after_of_no_effect effect, Function.update_eq_self]
      exact sharing
  | some b =>
      obtain ⟨s', w', performed, left⟩ := views.perform_of_effect told (sharing.known handle)
        sharing.there brought effect
      have place : s'.directory = directory := left.directory.trans tracks.place
      have known (q : Package) (holds : b.Holds q) : q ∈ ps :=
        (Bindings.holds_of_effect effect holds).elim (sharing.known handle q) (brought q)
      have new : Tracks b directory s' := by
        refine ⟨place, place ▸ left.views.indexed, fun key entry found => ?_⟩
        rcases left.dated key entry found with old | ⟨i, now⟩
        · exact tracks.dated key entry old
        · exact now ▸ clock i
      refine ⟨_, s', w', performed, rfl, ?_, left.clock⟩
      rw [Shared.after_of_effect effect]
      constructor
      · exact place ▸ left.views.stocked
      · exact tracks_update sharing.tracks new
      · refine ⟨s', new, Or.inl (left.written.filed fun key entry => ?_)⟩
        exact new.storable fun q holds => small q (known q holds)
      · exact fun q here => here.1.elim (sharing.there q) (brought q)
      · exact known_update sharing.known known
      · exact known

/-- Opening the directory again keeps the invariant, and changes nothing else. -/
theorem Sharing.reopen (sharing : Sharing a ps directory home handles w) (told : Package.Told ps)
    (handle : ι) :
    ∃ s', Operates (Turn.reopen handle).program (handles handle) w (.ok ()) s' w ∧
      Sharing (a.after (.reopen handle)) ps directory home
        (Function.update handles handle s') w := by
  obtain ⟨r, opened, finds, -⟩ := sharing.openAt told
  refine ⟨r, ?_, sharing.stocked, tracks_update sharing.tracks finds, sharing.saved,
    sharing.there, known_update sharing.known ?_, sharing.remembered⟩
  · rw [← (sharing.tracks handle).place] at opened
    have taken : Operates (set r : StoreM WorldM PUnit) (handles handle) w (.ok ⟨⟩) r w := rfl
    exact (Operates.get _ w).bind ((Operates.outside opened _).bind taken)
  · exact fun q holds => sharing.remembered q (Bindings.holds_of_within holds).1

/-- **Steps.** A turn succeeds exactly if it has an effect on the map of its handle, and the
handles share the directory after it. -/
theorem Sharing.take (sharing : Sharing a ps directory home handles w) (told : Package.Told ps)
    (small : ∀ q ∈ ps, q.size < 2 ^ 64) (clock : ∀ i, (w.clock i).Valid) {turn : Turn ι}
    (brought : ∀ p ∈ turn.packages, p ∈ ps) :
    ∃ result handles' w', (turn.take (m := WorldM)).run handles w = ((result, handles'), w') ∧
      result.isOk = a.allows turn ∧ Sharing (a.after turn) ps directory home handles' w' ∧
      w'.clock = w.clock := by
  cases turn with
  | call handle operation =>
      obtain ⟨result, s', w', performed, fits, next, turned⟩ :=
        sharing.call told small clock brought
      exact ⟨_, _, _, run_take (.call handle operation) performed, fits, next, turned⟩
  | reopen handle =>
      obtain ⟨s', opened, next⟩ := sharing.reopen told handle
      exact ⟨_, _, _, run_take (.reopen handle) opened, rfl, next, rfl⟩

/-- **Runs.** Turns succeed exactly if they have an effect on the maps of their handles, and the
handles share the directory after them. -/
theorem Sharing.takeAll {turns : List (Turn ι)}
    (sharing : Sharing a ps directory home handles w) (told : Package.Told ps)
    (small : ∀ q ∈ ps, q.size < 2 ^ 64) (clock : ∀ i, (w.clock i).Valid)
    (brought : ∀ turn ∈ turns, ∀ p ∈ turn.packages, p ∈ ps) :
    ∃ results handles' w', (PackageStore.takeAll turns).run handles w =
        ((results, handles'), w') ∧
      results.map Except.isOk = a.allowed turns ∧
      Sharing (turns.foldl Shared.after a) ps directory home handles' w' := by
  induction turns generalizing a handles w with
  | nil => exact ⟨[], handles, w, rfl, rfl, sharing⟩
  | cons turn rest ih =>
      obtain ⟨result, between, v, taken, fits, next, turned⟩ :=
        sharing.take told small clock (brought turn List.mem_cons_self)
      rw [← turned] at clock
      obtain ⟨results, handles', w', ran, allowed, last⟩ :=
        ih next clock fun other member => brought other (List.mem_cons_of_mem turn member)
      refine ⟨result :: results, handles', w', ?_, ?_, last⟩
      · have first : turn.take (m := WorldM) handles w = ((result, between), v) := taken
        have further : (PackageStore.takeAll rest) between v = ((results, handles'), w') := ran
        unfold PackageStore.takeAll at further ⊢
        rw [List.mapM_cons]
        simp only [StateT.run, Bind.bind, StateT.bind, first, further]
        rfl
      · rw [List.map_cons, fits, allowed, Shared.allowed]

end Sharing

/-- **The beginning.** Handles on a directory that has just been made share it. -/
theorem sharing_of_openAt {before world : World} {store : PackageStore} (quiet : before.Quiet)
    (standing : before.tree.node? before.working = some .directory)
    (direct : Direct before.working directory)
    (fresh : before.tree.Bare (spot before.working directory))
    (opened : Runs (openAt directory) before (.ok store) world) (ps : List Package) :
    Sharing (Shared.empty : Shared ι) ps directory (spot before.working directory)
      (fun _ => store) world := by
  have kept := kept_of_openAt quiet standing direct fresh opened
  have represents := represents_of_openAt quiet standing direct fresh opened
  obtain ⟨rfl, -, -, -⟩ := bare_of_openAt opened quiet standing direct fresh
  have tracks : Tracks Bindings.none directory { directory, index := {} } :=
    ⟨rfl, represents.indexed, fun _ _ found => nomatch found⟩
  constructor
  · exact kept.stocked
  · exact fun _ => tracks
  · exact ⟨_, tracks, kept.filed⟩
  · exact fun _ here => here.elim
  · exact fun _ q holds => absurd holds (Bindings.not_holds_none q)
  · exact fun q holds => absurd holds (Bindings.not_holds_none q)

/-- **Sharing.** Open handles on a directory where nothing stands below its place, and let
nothing else write there and no call be broken off. After any turns of the handles those turns
have succeeded that have an effect on the maps of their handles, and the directory can be opened
again. What is then found is the map of the handle that changed it last, as far as its packages
are there; and if only handles that knew what was saved have changed it, then it is what the
latest operations on the keys say, whichever handles they were carried out on. -/
theorem shared_directory [DecidableEq ι] {before world : World} {store : PackageStore}
    (quiet : before.Quiet) (standing : before.tree.node? before.working = some .directory)
    (direct : Direct before.working directory)
    (fresh : before.tree.Bare (spot before.working directory))
    (opened : Runs (openAt directory) before (.ok store) world)
    (clock : ∀ i, (world.clock i).Valid) (turns : List (Turn ι))
    (small : ∀ turn ∈ turns, ∀ p ∈ turn.packages, p.size < 2 ^ 64)
    (told : Package.Told (turns.flatMap Turn.packages)) :
    ∃ results handles w r, (takeAll turns).run (fun _ => store) world = ((results, handles), w) ∧
      results.map Except.isOk = Shared.empty.allowed turns ∧
      Runs (openAt directory) w (.ok r) w ∧
      Answers (turns.foldl Shared.after Shared.empty).found r w ∧
      (Shared.empty.Timely turns →
        Answers (turns.foldl Shared.after Shared.empty).latest r w) := by
  have fits (q : Package) (member : q ∈ turns.flatMap Turn.packages) : q.size < 2 ^ 64 := by
    obtain ⟨turn, here, one⟩ := List.mem_flatMap.mp member
    exact small turn here q one
  obtain ⟨results, handles, w, ran, allowed, sharing⟩ :=
    (sharing_of_openAt quiet standing direct fresh opened _).takeAll told fits clock
      fun turn member p one => List.mem_flatMap.mpr ⟨turn, member, one⟩
  obtain ⟨r, again, -, answers⟩ := sharing.openAt told
  refine ⟨results, handles, w, r, ran, allowed, again, answers, fun timely => ?_⟩
  rwa [← (Shared.faithful_empty.afterAll timely).found_eq]

/-- Two handles take turns on a store in a missing directory, and each opens it again before it
changes what the other one has changed. The package that the first one puts is found under the
reference that the second one tags it with, and no longer under the one that is removed. -/
theorem shared_directory_timely :
    let turns : List (Turn Bool) := [.call false (.put "probe" Probe.package), .reopen true,
      .call true (.tag "probe" "other:v1"), .reopen false, .call false (.remove "probe")]
    Runs (openAt "store") Probe.before (.ok Probe.store) Probe.world ∧
      ∃ results handles w r,
        (takeAll turns).run (fun _ => Probe.store) Probe.world = ((results, handles), w) ∧
        results.map Except.isOk = Shared.empty.allowed turns ∧
        Runs (openAt "store") w (.ok r) w ∧
        Answers (turns.foldl Shared.after Shared.empty).found r w ∧
        Answers (turns.foldl Shared.after Shared.empty).latest r w := by
  intro turns
  have only : ∀ p ∈ turns.flatMap Turn.packages, p = Probe.package := fun _ => List.mem_singleton.mp
  have timely : (Shared.empty : Shared Bool).Timely turns := by
    refine ⟨?_, nofun, ?_, nofun, ?_, trivial⟩
    · exact fun _ _ _ _ => trivial
    · rintro _ _ ⟨⟩ _
      exact Or.inl rfl
    · rintro _ _ ⟨⟩ _
      exact Or.inl rfl
  obtain ⟨results, handles, w, r, ran, allowed, again, found, latest⟩ :=
    shared_directory Probe.quiet Probe.standing Probe.direct Probe.fresh Probe.opened Probe.clock
      turns (List.forall_mem_flatMap.mp (Probe.small only)) (Package.told_of_only only)
  exact ⟨Probe.opened, results, handles, w, r, ran, allowed, again, found, latest timely⟩

/-- **Lost updates.** Of two handles that are open on a directory each puts a package under its
own reference, and both succeed. Only the second reference is found when the directory is
opened again. -/
theorem update_lost :
    let p : Package := { program := ⟨#[112]⟩, config := { info := "x" } }
    let turns : List (Turn Bool) := [.call false (.put "a" p), .call true (.put "b" p)]
    Runs (openAt "store") Probe.before (.ok Probe.store) Probe.world ∧ ∃ results handles w r,
      (takeAll turns).run (fun _ => Probe.store) Probe.world = ((results, handles), w) ∧
      results.map Except.isOk = [true, true] ∧
      (turns.foldl Shared.after Shared.empty).latest.at? "a" = some p ∧
      Runs (openAt "store") w (.ok r) w ∧
      Runs (r.load "a") w (.error (missing "a")) w := by
  intro p turns
  have small : ∀ q ∈ [p], q.size < 2 ^ 64 := by
    intro q member
    rw [List.mem_singleton.mp member]
    decide
  have told : Package.Told [p] := Package.told_of_only fun q => List.mem_singleton.mp
  have brought : ∀ turn ∈ turns, ∀ q ∈ turn.packages, q ∈ [p] := by
    simp only [turns, List.forall_mem_cons, Turn.packages, Operation.packages]
    simp
  have start : Sharing (Shared.empty : Shared Bool) [p] "store" _ _ _ :=
    sharing_of_openAt Probe.quiet Probe.standing Probe.direct Probe.fresh Probe.opened [p]
  clear_value p
  obtain ⟨results, handles, w, ran, allowed, sharing⟩ :=
    start.takeAll told small Probe.clock brought
  obtain ⟨r, again, -, answers⟩ := sharing.openAt told
  have first : Reference.canonical "a" = .ok "docker.io/library/a:latest" := rfl
  have second : Reference.canonical "b" = .ok "docker.io/library/b:latest" := rfl
  have said : (turns.foldl Shared.after Shared.empty).latest.at? "a" = some p := by
    simp only [turns, List.foldl_cons, List.foldl_nil, Shared.after, Operation.effect,
      Bindings.follow, Operation.subject, Bindings.at?, first, second]
    rfl
  have lost : (turns.foldl Shared.after Shared.empty).found.at? "a" = none := rfl
  exact ⟨Probe.opened, results, handles, w, r, ran, allowed, said, again,
    (answers.unbound "a" lost).2⟩

end BpfDepot.PackageStore
