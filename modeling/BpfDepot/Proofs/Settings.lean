import BpfDepot.Settings
import BpfDepot.Proofs.Path
import Mathlib.Data.Nat.Digits.Defs
import Mathlib.Tactic.Ring

/-! # What the environment adds to the settings

The registries that a variable lists are added behind those that are there, each of them once
and in the order in which they are first listed (`Settings.foldl_addRegistry`). The limit of an
exchange is a decimal numeral that fits 64 bits (`Settings.seconds?_eq_some_iff`). Both together
say what becomes of settings, and nothing more comes of a second time
(`Settings.environment_applied`).
-/

namespace BpfDepot

theorem Text.pieces_eq_splitOn (sep : Char) (text : List Char) :
    pieces sep text = text.splitOn sep := by
  induction text with
  | nil => rfl
  | cons c rest ih =>
      rw [List.splitOn_cons_eq_if_modifyHead, ← ih]
      by_cases same : c = sep
      · simp only [pieces, same, beq_self_eq_true, ↓reduceIte]
      · cases cut : pieces sep rest with
        | nil => exact absurd cut (pieces_ne_nil sep rest)
        | cons first others => simp [pieces, same, cut]

namespace Settings

variable {settings : Settings} {registries : List String} {host : String}

/-! ## Registries -/

/-- The registries that the value of a variable lists: what stands between its commas, without
blanks around it and unless it is blank. -/
def listed : Option String → List String
  | none => []
  | some list => (((list.toList.splitOn ',').map Text.trim).filter (· ≠ [])).map String.ofList

theorem registriesOf_eq (list : String) : registriesOf list = listed (some list) := by
  rw [registriesOf, listed, Text.pieces_eq_splitOn]
  generalize (list.toList.splitOn ',').map Text.trim = texts
  induction texts with
  | nil => rfl
  | cons text texts ih => by_cases blank : text = [] <;> simp [blank, ih]

theorem elim_registriesOf (list : Option String) : list.elim [] registriesOf = listed list := by
  cases list with
  | none => rfl
  | some list => exact registriesOf_eq list

theorem mem_addRegistry {registry : String} :
    host ∈ addRegistry registries registry ↔ host ∈ registries ∨ host = registry := by
  unfold addRegistry
  split
  · next present =>
    refine (or_iff_left_of_imp ?_).symm
    rintro rfl
    exact present
  · rw [List.mem_append, List.mem_singleton]

/-- **Adding registries.** Those that are there stay in front, and the others follow in the order
in which they come first, each of them once. -/
theorem foldl_addRegistry (registries more : List String) :
    more.foldl addRegistry registries =
      registries ++ (more.filter (· ∉ registries)).eraseDups := by
  induction more generalizing registries with
  | nil => simp
  | cons registry more ih =>
      rw [List.foldl_cons, ih]
      by_cases present : registry ∈ registries
      · rw [addRegistry, if_pos present, List.filter_cons_of_neg (by simpa using present)]
      · rw [addRegistry, if_neg present, List.filter_cons_of_pos (by simpa using present),
          List.eraseDups_cons, List.filter_filter, List.append_assoc, List.singleton_append]
        -- what is added now is neither there nor equal to what comes first
        refine congrArg (fun rest => registries ++ registry :: List.eraseDups rest)
          (List.filter_congr fun other _ => ?_)
        simp only [List.mem_append, List.mem_singleton, not_or, Bool.decide_and, decide_not]
        exact Bool.and_comm _ _

/-- Adding what is there already changes nothing. -/
theorem foldl_addRegistry_of_subset {more : List String} (there : more ⊆ registries) :
    more.foldl addRegistry registries = registries := by
  rw [foldl_addRegistry, List.filter_eq_nil_iff.mpr fun registry member => by
    simpa using there member]
  exact List.append_nil _

theorem mem_foldl_addRegistry {more : List String} :
    host ∈ more.foldl addRegistry registries ↔ host ∈ registries ∨ host ∈ more := by
  rw [foldl_addRegistry, List.mem_append, List.mem_eraseDups, List.mem_filter, decide_eq_true_eq]
  by_cases present : host ∈ registries <;> simp [present]

/-! ## The limit -/

/-- The number that digits have in the decimal system. -/
def decimal (digits : List Char) : Nat :=
  Nat.ofDigits 10 ((digits.map fun c => c.toNat - '0'.toNat).reverse)

/-- A text is a decimal numeral: one digit or more, and there may be a plus sign before them. -/
def Numeral (text : List Char) (n : Nat) : Prop :=
  ∃ digits, (text = digits ∨ text = '+' :: digits) ∧ digits ≠ [] ∧
    (∀ c ∈ digits, c.isDigit = true) ∧ decimal digits = n

/-- Digits that are read from the front give the number that they have. -/
theorem foldl_digits (digits : List Char) (n : Nat) :
    digits.foldl (fun n c => 10 * n + (c.toNat - '0'.toNat)) n =
      10 ^ digits.length * n + decimal digits := by
  unfold decimal
  induction digits generalizing n with
  | nil => simp
  | cons c digits ih =>
      rw [List.foldl_cons, ih, List.map_cons, List.reverse_cons, Nat.ofDigits_append,
        Nat.ofDigits_singleton, List.length_reverse, List.length_map, List.length_cons]
      ring

/-- A text without its plus sign. -/
def unsigned : List Char → List Char
  | '+' :: rest => rest
  | text => text

theorem unsigned_eq_self {text : List Char} (unmarked : ∀ rest, text ≠ '+' :: rest) :
    unsigned text = text := by
  unfold unsigned
  split
  · next rest => exact absurd rfl (unmarked rest)
  · rfl

theorem numeral_iff {text : List Char} {n : Nat} : Numeral text n ↔
    unsigned text ≠ [] ∧ (∀ c ∈ unsigned text, c.isDigit = true) ∧ decimal (unsigned text) = n := by
  constructor
  · rintro ⟨digits, rfl | rfl, present, all, value⟩
    · have same : unsigned text = text := by
        refine unsigned_eq_self ?_
        rintro rest rfl
        exact nomatch all '+' List.mem_cons_self
      rw [same]
      exact ⟨present, all, value⟩
    · exact ⟨present, all, value⟩
  · rintro ⟨present, all, value⟩
    refine ⟨unsigned text, ?_, present, all, value⟩
    unfold unsigned
    split
    · exact Or.inr rfl
    · exact Or.inl rfl

/-- **Numerals.** A numeral is read as its number if that fits 64 bits, and nothing else is
read. -/
theorem seconds?_eq_some_iff {text : List Char} {n : Nat} :
    seconds? text = some n ↔ Numeral text n ∧ n < 2 ^ 64 := by
  have read : seconds? text =
      if unsigned text = [] || !(unsigned text).all Char.isDigit then none
      else if decimal (unsigned text) < Nat.pow 2 64 then some (decimal (unsigned text))
      else none := by
    have value : (unsigned text).foldl (fun n c => 10 * n + (c.toNat - '0'.toNat)) 0 =
        decimal (unsigned text) := by rw [foldl_digits, Nat.mul_zero, Nat.zero_add]
    rw [← value]
    unfold seconds?
    split
    · rfl
    · next unmarked =>
      rw [unsigned_eq_self unmarked]
  rw [read, numeral_iff, ← List.all_eq_true]
  split
  · next unfit =>
    refine ⟨nofun, fun ⟨⟨present, all, _⟩, _⟩ => ?_⟩
    simp [present, all] at unfit
  · next fits =>
    obtain ⟨present, all⟩ : unsigned text ≠ [] ∧ (unsigned text).all Char.isDigit = true := by
      simpa using fits
    have bound : Nat.pow 2 64 = 2 ^ 64 := rfl
    rw [bound]
    split
    · next small =>
      rw [Option.some.injEq]
      constructor
      · rintro rfl
        exact ⟨⟨present, all, rfl⟩, small⟩
      · exact fun ⟨⟨_, _, value⟩, _⟩ => value
    · next large =>
      refine ⟨nofun, ?_⟩
      rintro ⟨⟨_, _, rfl⟩, small⟩
      exact absurd small large

/-! ## Both variables -/

theorem isInsecure_iff : settings.isInsecure host = true ↔ host ∈ settings.insecureRegistries :=
  decide_eq_true_iff

theorem insecureRegistries_withRegistries (settings : Settings) (list : Option String) :
    (settings.withRegistries list).insecureRegistries =
      (listed list).foldl addRegistry settings.insecureRegistries := by
  rw [withRegistries, elim_registriesOf]

section Limit

variable {lookup : String → Option String} {text : String} {n m : Nat}

/-- A text sets a limit: it is a numeral that fits 64 bits, blanks at its ends aside. -/
def Limits (text : String) (n : Nat) : Prop := Numeral (Text.trim text.toList) n ∧ n < 2 ^ 64

theorem Limits.unique (limits : Limits text n) (other : Limits text m) : n = m :=
  Option.some.inj ((seconds?_eq_some_iff.mpr limits).symm.trans (seconds?_eq_some_iff.mpr other))

theorem applyVariables_of_none (settings : Settings) (absent : lookup timeoutVariable = none) :
    settings.applyVariables lookup =
      (settings.withRegistries (lookup registriesVariable), .ok ()) := by
  simp only [applyVariables, absent, withTimeout]

theorem applyVariables_of_limits (settings : Settings) (given : lookup timeoutVariable = some text)
    (limits : Limits text n) : settings.applyVariables lookup =
      ({ settings.withRegistries (lookup registriesVariable) with timeoutSeconds := some n },
        .ok ()) := by
  simp only [applyVariables, given, withTimeout, seconds?_eq_some_iff.mpr limits]

theorem applyVariables_of_not_limits (settings : Settings)
    (given : lookup timeoutVariable = some text) (unfit : ∀ n, ¬ Limits text n) :
    settings.applyVariables lookup = (settings.withRegistries (lookup registriesVariable),
      .error (.config
        ("EBPF_OCI_TIMEOUT_SECS must be a whole number of seconds, got '" ++ text ++ "'"))) := by
  have unread : seconds? (Text.trim text.toList) = none :=
    Option.eq_none_iff_forall_ne_some.mpr fun n read => unfit n (seconds?_eq_some_iff.mp read)
  simp only [applyVariables, given, withTimeout, unread]
  rfl

end Limit

/-- What becomes of settings when the values of the two variables are applied. -/
structure Applied (before : Settings) (list limit : Option String) (after : Settings)
    (result : Except Error Unit) : Prop where
  /-- Behind the registries that are there come those that are listed and were not there, each
  once and in the order in which they are first listed. -/
  registries : after.insecureRegistries = before.insecureRegistries ++
    ((listed list).filter (· ∉ before.insecureRegistries)).eraseDups
  /-- The hosts that are listed are talked to without encryption as well. -/
  insecure_iff : ∀ host, after.isInsecure host = true ↔
    before.isInsecure host = true ∨ host ∈ listed list
  /-- What is to be the limit has to set one. -/
  succeeds_iff : result = .ok () ↔ ∀ text, limit = some text → ∃ n, Limits text n
  /-- Then this is the limit. -/
  limited : ∀ text n, limit = some text → Limits text n → after.timeoutSeconds = some n
  /-- If nothing is to be the limit the old one stays. -/
  unlimited : limit = none → after.timeoutSeconds = before.timeoutSeconds
  /-- The old one stays also when it fails, and the failure shows what was to be the limit. -/
  refused : ∀ error, result = .error error → after.timeoutSeconds = before.timeoutSeconds ∧
    ∃ text, limit = some text ∧ error = .config
      ("EBPF_OCI_TIMEOUT_SECS must be a whole number of seconds, got '" ++ text ++ "'")
  /-- The directory of the store stays. -/
  directory : after.storeDirectory = before.storeDirectory

/-- What is added of the registries does not depend on the limit. -/
theorem insecure_of_withRegistries {after : Settings} {list : Option String}
    (same : after.insecureRegistries = (settings.withRegistries list).insecureRegistries)
    (host : String) :
    after.isInsecure host = true ↔ settings.isInsecure host = true ∨ host ∈ listed list := by
  rw [isInsecure_iff, isInsecure_iff, same, insecureRegistries_withRegistries,
    mem_foldl_addRegistry]

theorem applied (settings : Settings) (lookup : String → Option String) :
    Applied settings (lookup registriesVariable) (lookup timeoutVariable)
      (settings.applyVariables lookup).1 (settings.applyVariables lookup).2 := by
  have registries := (insecureRegistries_withRegistries settings (lookup registriesVariable)).trans
    (foldl_addRegistry _ _)
  cases given : lookup timeoutVariable with
  | none =>
      rw [applyVariables_of_none settings given]
      exact ⟨registries, insecure_of_withRegistries rfl, ⟨nofun, fun _ => rfl⟩, nofun,
        fun _ => rfl, nofun, rfl⟩
  | some text =>
      by_cases fit : ∃ n, Limits text n
      · obtain ⟨n, limits⟩ := fit
        rw [applyVariables_of_limits settings given limits]
        refine ⟨registries, insecure_of_withRegistries rfl, ⟨?_, fun _ => rfl⟩, ?_, nofun, nofun,
          rfl⟩
        · rintro - _ ⟨⟩
          exact ⟨n, limits⟩
        · rintro _ m ⟨⟩ other
          exact congrArg some (limits.unique other)
      · have unfit := not_exists.mp fit
        rw [applyVariables_of_not_limits settings given unfit]
        refine ⟨registries, insecure_of_withRegistries rfl, ⟨nofun, ?_⟩, ?_, nofun, ?_, rfl⟩
        · exact fun all => absurd (all text rfl) fit
        · rintro _ n ⟨⟩ limits
          exact absurd limits (unfit n)
        · rintro _ ⟨⟩
          exact ⟨rfl, text, rfl, rfl⟩

/-- **The environment.** What its two variables make of settings, and that applying them again
changes nothing and has the same result. -/
theorem environment_applied (settings : Settings) (lookup : String → Option String) :
    Applied settings (lookup registriesVariable) (lookup timeoutVariable)
        (settings.applyVariables lookup).1 (settings.applyVariables lookup).2 ∧
      (settings.applyVariables lookup).1.applyVariables lookup =
        settings.applyVariables lookup := by
  have applied := settings.applied lookup
  refine ⟨applied, ?_⟩
  -- all registries that are listed are there now
  have there : (settings.applyVariables lookup).1.withRegistries (lookup registriesVariable) =
      (settings.applyVariables lookup).1 := by
    rw [withRegistries, elim_registriesOf, foldl_addRegistry_of_subset fun host member =>
      isInsecure_iff.mp ((applied.insecure_iff host).mpr (Or.inr member))]
  cases given : lookup timeoutVariable with
  | none =>
      rw [applyVariables_of_none _ given, there, applyVariables_of_none settings given]
  | some text =>
      by_cases fit : ∃ n, Limits text n
      · obtain ⟨n, limits⟩ := fit
        rw [applyVariables_of_limits _ given limits, there,
          applyVariables_of_limits settings given limits]
      · have unfit := not_exists.mp fit
        rw [applyVariables_of_not_limits _ given unfit, there,
          applyVariables_of_not_limits settings given unfit]

-- blanks, empty pieces and repetitions add nothing, and a plus sign may stand before the limit
example : (({ insecureRegistries := ["a"] } : Settings).applyVariables fun name =>
    if name = registriesVariable then some " b:80,a,, b:80 ," else some "+012 ") =
      ({ insecureRegistries := ["a", "b:80"], timeoutSeconds := some 12 }, .ok ()) := by
  decide +kernel

end Settings

end BpfDepot
