import BpfDepot.Proofs.Reference.Resolution
import BpfDepot.Registry

/-! # Two readers of references

A reference is read twice on its way to a registry: by `Reference.parse`, which fills in what
is left out, and then by the client, from the reference written with nothing left out. The
client would have made the same of the text as it was typed (`Reference.client_agrees`): what
is filled in does not move a cut (`Client.splitName_of_split`) and changes the fit of a name
in one case only (`Client.isName_of_split`), where a folder without an owner in the default
registry has a capital letter and so could be the host of a registry only.
-/

namespace BpfDepot

namespace Client

open Text

variable {text name registry repository : List Char}

/-! ## Hosts that could be folders -/

/-- There is one first separator only. -/
theorem append_cons_inj {sep : Char} {before behind first rest : List Char} (absent : sep ∉ before)
    (single : sep ∉ first) (same : before ++ sep :: behind = first ++ sep :: rest) :
    before = first ∧ behind = rest := by
  have cut := cutFirst?_eq_some_iff.mpr ⟨same, single⟩
  rw [cutFirst?_eq_some_iff.mpr ⟨rfl, absent⟩] at cut
  exact Prod.mk.inj (Option.some.inj cut)

theorem not_isUpper_of_isSmallOrDigit {c : Char} (small : isSmallOrDigit c = true) :
    c.isUpper = false := by
  have lower : c.isLower = true → 97 ≤ c.toNat := fun fits =>
    UInt32.le_iff_toNat_le.mp (of_decide_eq_true (Bool.and_eq_true_iff.mp fits).1)
  have digit : c.isDigit = true → c.toNat ≤ 57 := fun fits =>
    UInt32.le_iff_toNat_le.mp (of_decide_eq_true (Bool.and_eq_true_iff.mp fits).2)
  have upper : c.isUpper = true → 65 ≤ c.toNat ∧ c.toNat ≤ 90 := fun fits =>
    (of_decide_eq_true fits).imp UInt32.le_iff_toNat_le.mp UInt32.le_iff_toNat_le.mp
  refine Bool.eq_false_iff.mpr fun capital => ?_
  have bounds := upper capital
  rcases Bool.or_eq_true_iff.mp small with fits | fits
  · have := lower fits
    omega
  · have := digit fits
    omega

theorem isSmallOrDigit_of_not_isUpper {c : Char} (fits : isLetterOrDigit c = true)
    (small : c.isUpper = false) : isSmallOrDigit c = true := by
  have either : ((c.isUpper || c.isLower) || c.isDigit) = true := fits
  rwa [small, Bool.false_or] at either

theorem not_isUpper_of_isComponent (fits : isComponent text = true) :
    ∀ c ∈ text, c.isUpper = false := by
  intro c member
  rcases over_component text (isComponent_iff.mp fits) c member with small | rfl | rfl | rfl
  · exact not_isUpper_of_isSmallOrDigit small
  all_goals decide

/-- Small letters, digits and hyphens go on with a component, up to a small letter or digit. -/
theorem isComponentAfter_of_small {middle : List Char} {last : Char}
    (inside : ∀ c ∈ middle, isSmallOrDigit c = true ∨ c = '-') (ends : isSmallOrDigit last = true)
    {ending : Ending} (begun : ending = .letter ∨ ending = .hyphens) :
    isComponentAfter ending (middle ++ [last]) = true := by
  induction middle generalizing ending with
  | nil =>
      rw [List.nil_append, isComponentAfter, next?_of_small ends]
      rfl
  | cons c middle ih =>
      have further {next : Ending} (begun : next = .letter ∨ next = .hyphens) :=
        ih (fun d member => inside d (List.mem_cons_of_mem _ member)) begun
      rw [List.cons_append, isComponentAfter]
      rcases inside c List.mem_cons_self with small | rfl
      · rw [next?_of_small small]
        exact further (Or.inl rfl)
      · rcases begun with rfl | rfl
        · exact further (Or.inr rfl)
        · exact further (Or.inr rfl)

/-- A label without capitals is a component. -/
theorem isComponent_of_isLabel (fits : isLabel text = true)
    (small : ∀ c ∈ text, c.isUpper = false) : isComponent text = true := by
  have component {c : Char} (member : c ∈ text) (fits : isLetterOrDigit c = true) :
      isSmallOrDigit c = true := isSmallOrDigit_of_not_isUpper fits (small c member)
  rcases isLabel_iff.mp fits with ⟨c, begins, rfl⟩ | whole
  · rw [isComponent, isComponentAfter, next?_of_small (component List.mem_cons_self begins)]
    rfl
  · obtain ⟨_, ⟨_, ⟨c, begins, rfl⟩, middle, within, rfl⟩, _, ⟨d, ends, rfl⟩, rfl⟩ := whole
    have first := component (by simp) begins
    have last := component (by simp) ends
    change isComponent ([c] ++ middle ++ [d]) = true
    rw [List.append_assoc, List.singleton_append, isComponent, isComponentAfter,
      next?_of_small first]
    refine isComponentAfter_of_small (fun e member => ?_) last (Or.inl rfl)
    have either := mem_star_one_iff.mp within e member
    rw [Bool.or_eq_true, beq_iff_eq] at either
    exact either.imp_left (component (by simp [member]))

/-- A host that is no registry is one label. -/
theorem isLabel_of_isHost (hosted : isHost text = true)
    (plain : Reference.isRegistry text = false) : isLabel text = true := by
  simp only [Reference.isRegistry, Bool.or_eq_false_iff, List.contains_eq_mem,
    decide_eq_false_iff_not] at plain
  obtain ⟨⟨noPoint, noColon⟩, -⟩ := plain
  rw [isHost, cutFirst?_eq_none_iff.mpr noColon] at hosted
  simpa [pieces_of_not_mem noPoint] using hosted

/-- The part of a text before its first slash is no registry and has a capital letter. Only
letters of the ASCII range matter, since the grammar has no others in a name. -/
def CapitalFolder (text : List Char) : Prop :=
  ∃ first rest, text = first ++ '/' :: rest ∧ '/' ∉ first ∧
    Reference.isRegistry first = false ∧ ∃ c ∈ first, c.isUpper = true

theorem any_cutFirst?_iff : ((cutFirst? '/' text).any fun parts =>
    !Reference.isRegistry parts.1 && parts.1.any Char.isUpper) = true ↔ CapitalFolder text := by
  simp only [Option.any_eq_true, Prod.exists, cutFirst?_eq_some_iff, Bool.and_eq_true,
    Bool.not_eq_true', List.any_eq_true, and_assoc, CapitalFolder]

instance : DecidablePred CapitalFolder := fun _ => decidable_of_iff _ any_cutFirst?_iff

/-- Where a first part is no registry, it is a component unless it has a capital letter. -/
theorem isComponent_iff_of_isHost (plain : Reference.isRegistry text = false) :
    isComponent text = true ↔
      (isComponent text = true ∨ isHost text = true) ∧ ∀ c ∈ text, c.isUpper = false := by
  constructor
  · intro fits
    exact ⟨Or.inl fits, not_isUpper_of_isComponent fits⟩
  · rintro ⟨fits | hosted, small⟩
    · exact fits
    · exact isComponent_of_isLabel (isLabel_of_isHost hosted plain) small

/-- What stands behind a text without a slash in it does not change its first part. -/
theorem capitalFolder_append {behind : List Char} (absent : '/' ∉ behind) :
    CapitalFolder (text ++ behind) ↔ CapitalFolder text := by
  constructor
  · rintro ⟨first, rest, whole, single, plain, capital⟩
    cases cut : cutFirst? '/' text with
    | none =>
        have slash : '/' ∈ text ++ behind := by simp [whole]
        exact absurd slash (by simp [absent, cutFirst?_eq_none_iff.mp cut])
    | some parts =>
        obtain ⟨front, back⟩ := parts
        obtain ⟨rfl, noSlash⟩ := cutFirst?_eq_some_iff.mp cut
        rw [List.append_assoc, List.cons_append] at whole
        obtain ⟨rfl, -⟩ := append_cons_inj noSlash single whole
        exact ⟨front, back, rfl, single, plain, capital⟩
  · rintro ⟨first, rest, rfl, single, plain, capital⟩
    exact ⟨first, rest ++ behind, by simp, single, plain, capital⟩

/-! ## Filling in -/

/-- The name with its registry and folder filled in fits if the name does, unless the name
has a folder with a capital letter. -/
theorem isName_of_split (split : Reference.splitRegistry name = some (registry, repository)) :
    isName (registry ++ '/' :: repository) = true ↔
      isName name = true ∧ ¬ CapitalFolder name := by
  have component : isComponent Reference.defaultRegistry.toList = true := by decide
  have folder : isComponent Reference.defaultFolder.toList = true := by decide
  rcases Reference.splitRegistry_eq_some_iff.mp split with ⟨host, absent, named, rfl⟩ |
    ⟨rfl, rfl, first, rest, plain, absent, rfl⟩ | ⟨rfl, rfl, absent, named⟩
  · refine (and_iff_left ?_).symm
    rintro ⟨first, rest, whole, single, plain, -⟩
    obtain ⟨rfl, -⟩ := append_cons_inj absent single whole
    rw [host] at plain
    cases plain
  · have capitals : ¬ CapitalFolder (first ++ '/' :: rest) ↔ ∀ c ∈ first, c.isUpper = false := by
      constructor
      · intro none c member
        refine Bool.eq_false_iff.mpr fun capital => none ?_
        exact ⟨first, rest, rfl, absent, plain, c, member, capital⟩
      · rintro small ⟨other, rest', whole, single, -, c, member, capital⟩
        obtain ⟨rfl, -⟩ := append_cons_inj absent single whole
        rw [small c member] at capital
        cases capital
    have begins := isComponent_iff_of_isHost plain
    rw [isName_append (by decide), isName_append absent, capitals, pieces_append,
      pieces_of_not_mem absent, List.singleton_append, List.forall_mem_cons]
    constructor
    · rintro ⟨-, fits, all⟩
      obtain ⟨either, small⟩ := begins.mp fits
      exact ⟨⟨either, all⟩, small⟩
    · rintro ⟨⟨either, all⟩, small⟩
      exact ⟨Or.inl component, begins.mpr ⟨either, small⟩, all⟩
  · have capitals : ¬ CapitalFolder name := by
      rintro ⟨first, rest, rfl, -⟩
      exact absent (by simp)
    rw [isName_append (by decide), pieces_append, pieces_of_not_mem absent,
      isName_of_not_mem absent, pieces_of_not_mem (by decide), List.singleton_append,
      List.forall_mem_cons, List.forall_mem_singleton]
    constructor
    · rintro ⟨-, -, fits⟩
      exact ⟨fits, capitals⟩
    · rintro ⟨fits, -⟩
      exact ⟨Or.inl component, folder, fits⟩

/-! ## Renaming -/

/-- The renaming of the default registry, and of the repositories in it that name no
folder. -/
def rename (registry repository : String) : String × String :=
  let host := if registry = legacyRegistry then Reference.defaultRegistry else registry
  if host = Reference.defaultRegistry ∧ '/' ∉ repository.toList then
    (host, Reference.defaultFolder ++ "/" ++ repository)
  else (host, repository)

theorem fst_rename (registry repository : String) : (rename registry repository).1 =
    if registry = legacyRegistry then Reference.defaultRegistry else registry := by
  unfold rename
  rw [apply_ite Prod.fst, ite_self]

/-- A name that begins with a registry is split behind it, and any other is looked for in
the default registry. What comes of it is renamed. -/
theorem splitName_eq (name : List Char) : splitName name =
    ((cutFirst? '/' name).filter fun parts => Reference.isRegistry parts.1).elim
      (rename Reference.defaultRegistry (String.ofList name))
      fun parts => rename (String.ofList parts.1) (String.ofList parts.2) := by
  have renamed (registry : String) (repository : List Char) :
      rename registry (String.ofList repository) =
        let host := if registry = legacyRegistry then Reference.defaultRegistry else registry
        if host = Reference.defaultRegistry && !repository.contains '/' then
          (host, String.ofList (Reference.defaultFolder.toList ++ '/' :: repository))
        else (host, String.ofList repository) := by
    have joined : Reference.defaultFolder ++ "/" ++ String.ofList repository =
        String.ofList (Reference.defaultFolder.toList ++ '/' :: repository) := by
      rw [← String.toList_inj]
      simp
    simp only [rename, joined, String.toList_ofList, Bool.and_eq_true, decide_eq_true_eq,
      Bool.not_eq_true', List.contains_eq_mem, decide_eq_false_iff_not]
  simp only [renamed]
  unfold splitName
  cases cut : cutFirst? '/' name with
  | none => rfl
  | some parts =>
      obtain ⟨first, rest⟩ := parts
      cases host : Reference.isRegistry first <;> simp [host, Option.filter]

/-- What is filled in does not move the cut between registry and repository. -/
theorem splitName_of_split (split : Reference.splitRegistry name = some (registry, repository)) :
    splitName name = rename (String.ofList registry) (String.ofList repository) := by
  rw [splitName_eq]
  rcases Reference.splitRegistry_eq_some_iff.mp split with ⟨host, absent, named, rfl⟩ |
    ⟨rfl, rfl, first, rest, plain, absent, rfl⟩ | ⟨rfl, rfl, absent, named⟩
  · simp [cutFirst?_eq_some_iff.mpr ⟨rfl, absent⟩, Option.filter, host]
  · simp [cutFirst?_eq_some_iff.mpr ⟨rfl, absent⟩, Option.filter, plain]
  · -- the folder that the client would put in front is there already
    rw [cutFirst?_eq_none_iff.mpr absent, String.ofList_toList]
    have noLegacy : Reference.defaultRegistry ≠ legacyRegistry := by decide
    have joined : Reference.defaultFolder ++ "/" ++ String.ofList name =
        String.ofList (Reference.defaultFolder.toList ++ '/' :: name) := by
      rw [← String.toList_inj]
      simp
    simp [rename, noLegacy, absent, joined]

/-- The name with its registry and folder filled in is split as the name is. -/
theorem splitName_filled (split : Reference.splitRegistry name = some (registry, repository)) :
    splitName (registry ++ '/' :: repository) = splitName name := by
  rw [splitName_of_split split, splitName_of_split (Reference.splitRegistry_filled split)]

/-! ## Both readers -/

/-- A name that fits names a repository. -/
theorem splitRegistry_of_isName (fits : isName name = true) :
    ∃ registry repository, Reference.splitRegistry name = some (registry, repository) := by
  cases cut : cutFirst? '/' name with
  | none =>
      have absent := cutFirst?_eq_none_iff.mp cut
      have named : name ≠ [] := by
        rintro rfl
        cases fits
      exact ⟨_, _, Reference.splitRegistry_eq_some_iff.mpr
        (Or.inr (Or.inr ⟨rfl, rfl, absent, named⟩))⟩
  | some parts =>
      obtain ⟨first, rest⟩ := parts
      obtain ⟨rfl, absent⟩ := cutFirst?_eq_some_iff.mp cut
      cases host : Reference.isRegistry first with
      | true =>
          have named : rest ≠ [] := by
            rintro rfl
            have empty := ((isName_append absent []).mp fits).2 [] List.mem_cons_self
            cases empty
          exact ⟨_, _, Reference.splitRegistry_append absent host named⟩
      | false =>
          exact ⟨_, _, Reference.splitRegistry_eq_some_iff.mpr
            (Or.inr (Or.inl ⟨rfl, rfl, first, rest, host, absent, rfl⟩))⟩

variable {nameTag : List Char} {tag digest : Option (List Char)} {typed : String}

theorem mem_of_isDigest {digest : List Char} (fits : isDigest digest = true) : ':' ∈ digest := by
  by_contra absent
  rw [isDigest, cutFirst?_eq_none_iff.mpr absent] at fits
  cases fits

/-- The first part of a text is the first part of its name. -/
theorem Matches.capitalFolder_iff (groups : Matches text name tag digest) :
    CapitalFolder text ↔ CapitalFolder name := by
  obtain ⟨rfl, -, tag_fits, digest_fits⟩ := groups
  have inDigest : '/' ∉ digest.elim [] ('@' :: ·) := by
    cases digest with
    | none => exact List.not_mem_nil
    | some digest =>
        have absent : '/' ∉ digest := over_digest.not_mem (digest_fits digest rfl) (by decide)
        simpa using absent
  have inTag : '/' ∉ tag.elim [] (':' :: ·) := by
    cases tag with
    | none => exact List.not_mem_nil
    | some tag =>
        have absent : '/' ∉ tag := (not_mem_tag (tag_fits tag rfl)).2.2
        simpa using absent
  rw [capitalFolder_append inDigest, capitalFolder_append inTag]

/-- What fits is read. -/
theorem Matches.parse (groups : Matches (trimmed typed).toList name tag digest)
    (split : Reference.splitRegistry name = some (registry, repository)) :
    Reference.parse typed = .ok (Reference.assemble registry repository tag digest) := by
  obtain ⟨nameTag, cut, tagged, -⟩ := matches_iff.mp groups
  rw [toList_trimmed] at groups cut
  refine Reference.parseTrimmed_eq_ok_iff.mpr
    ⟨?_, nameTag, digest, name, tag, registry, repository, cut, ?_, tagged, ?_, split, rfl⟩
  · intro empty
    have whole := groups.whole
    rw [empty] at whole
    obtain ⟨begins, -⟩ := List.append_eq_nil_iff.mp whole.symm
    obtain ⟨rfl, -⟩ := List.append_eq_nil_iff.mp begins
    cases split
  · intro part given
    exact mem_of_isDigest (isDigest_iff.mpr (groups.digest_fits part given))
  · intro empty
    cases isTag_iff.mpr (groups.tag_fits [] empty)

/-- The tag that is filled in fits. -/
theorem isTag_filled : ((Reference.assemble registry repository tag digest).tag.map
    String.toList).all isTag = tag.all isTag := by
  cases tag with
  | some tag => simp [Reference.assemble]
  | none =>
      cases digest with
      | some digest => rfl
      | none =>
          have fits : isTag Reference.defaultTag.toList = true := by decide
          simpa [Reference.assemble] using fits

/-- The tag that is filled in is the one that would be filled in again. -/
theorem assemble_filled (host path : List Char) :
    Reference.assemble host path
      ((Reference.assemble registry repository tag digest).tag.map String.toList) digest =
        Reference.assemble host path tag digest := by
  cases tag <;> cases digest <;> simp [Reference.assemble]

/-- **Filled in.** What is filled in changes nothing for the client, unless the name has a
folder with a capital letter. -/
theorem resolve_full (canonical : (Reference.assemble registry repository tag digest).IsCanonical)
    (cut : Reference.splitDigest typed.toList = (nameTag, digest))
    (tagged : Reference.splitTag nameTag = (name, tag))
    (split : Reference.splitRegistry name = some (registry, repository)) :
    (¬ CapitalFolder name →
      resolve (Reference.assemble registry repository tag digest).full = resolve typed) ∧
    (CapitalFolder name →
      resolve (Reference.assemble registry repository tag digest).full = .error .format) := by
  have written := resolve_of_cut (Reference.splitDigest_full canonical)
    (Reference.splitTag_full canonical)
  have pinned : (Reference.assemble registry repository tag digest).digest.map String.toList =
      digest := by
    cases digest <;> simp [Reference.assemble]
  have host : (Reference.assemble registry repository tag digest).registry.toList = registry :=
    String.toList_ofList
  have path : (Reference.assemble registry repository tag digest).repository.toList =
      repository := String.toList_ofList
  rw [pinned, host, path, isTag_filled, splitName_filled split, assemble_filled] at written
  rw [written, resolve_of_cut cut tagged]
  have fits := isName_of_split split
  constructor
  · intro small
    rw [Bool.eq_iff_iff.mpr (fits.trans (and_iff_left small))]
  · intro capital
    have unfit : isName (registry ++ '/' :: repository) = false :=
      Bool.eq_false_iff.mpr fun accepted => (fits.mp accepted).2 capital
    rw [unfit]
    rfl

end Client

namespace Reference

theorem clientReference_eq (r : Reference) : Registry.clientReference r =
    (Client.resolve r.full).mapError fun fault =>
      .invalidReference ("'" ++ r.full ++ "': " ++ fault.message) := by
  unfold Registry.clientReference
  cases Client.resolve r.full <;> rfl

theorem clientReference_eq_ok_iff {r c : Reference} :
    Registry.clientReference r = .ok c ↔ Client.resolve r.full = .ok c := by
  rw [clientReference_eq]
  cases Client.resolve r.full <;> simp [Except.mapError]

/-- What a client makes of a reference that was read, it makes of the text as well. -/
theorem resolve_of_clientReference {text : String} {r c : Reference} (read : parse text = .ok r)
    (given : Registry.clientReference r = .ok c) :
    Client.resolve (Text.trimmed text) = .ok c ∧ c.tag = r.tag ∧ c.digest = r.digest ∧
      (c.registry, c.repository) = Client.rename r.registry r.repository := by
  have canonical := isCanonical_of_parse read
  obtain ⟨-, nameTag, digest, name, tag, registry, repository, cut, -, tagged, -, split, rfl⟩ :=
    parseTrimmed_eq_ok_iff.mp read
  rw [← Text.toList_trimmed] at cut
  obtain ⟨same, refused⟩ := Client.resolve_full canonical cut tagged split
  have resolved := clientReference_eq_ok_iff.mp given
  have small : ¬ Client.CapitalFolder name := by
    intro capital
    rw [refused capital] at resolved
    cases resolved
  rw [same small] at resolved
  obtain ⟨-, -, -, rfl⟩ := (Client.resolve_eq_ok_iff_of_cut cut tagged).mp resolved
  refine ⟨resolved, rfl, rfl, ?_⟩
  simp only [assemble, String.ofList_toList]
  exact Client.splitName_of_split split

/-- What a client makes of a text, it makes of the reference that is read there, unless the
text has a folder with a capital letter. -/
theorem clientReference_of_resolve {text : String} {c : Reference}
    (resolved : Client.resolve (Text.trimmed text) = .ok c) :
    ∃ r, parse text = .ok r ∧
      (¬ Client.CapitalFolder (Text.trimmed text).toList → Registry.clientReference r = .ok c) ∧
      (Client.CapitalFolder (Text.trimmed text).toList →
        Registry.clientReference r = .error (.invalidReference
          ("'" ++ r.full ++ "': " ++ Client.Fault.format.message))) := by
  rcases cut : splitDigest (Text.trimmed text).toList with ⟨nameTag, digest⟩
  rcases tagged : splitTag nameTag with ⟨name, tag⟩
  obtain ⟨fits, -⟩ := (Client.resolve_eq_ok_iff_of_cut cut tagged).mp resolved
  have groups := Client.matches_iff.mpr ⟨nameTag, cut, tagged, fits⟩
  obtain ⟨registry, repository, split⟩ :=
    Client.splitRegistry_of_isName (Client.isName_iff.mpr groups.name_fits)
  have read := groups.parse split
  obtain ⟨same, refused⟩ := Client.resolve_full (isCanonical_of_parse read) cut tagged split
  rw [groups.capitalFolder_iff]
  refine ⟨_, read, fun small => ?_, fun capital => ?_⟩
  · rw [clientReference_eq_ok_iff, same small]
    exact resolved
  · rw [clientReference_eq, refused capital]
    rfl

/-- **Two readers.** A client makes of a text what its grammar and its splitting of names
make of it. What it makes of a reference that was read, it makes of the text as well, with
the same tag and digest, and with the registry and repository that were read, renamed. What
it makes of a text, it makes of the reference that is read there, unless the text has a
folder with a capital letter: with the default registry in front that folder can no longer
be a host, and the client refuses the form. -/
theorem client_agrees :
    (∀ text c, Client.resolve text = .ok c ↔ Client.Denotes text.toList c) ∧
    (∀ text r c, parse text = .ok r → Registry.clientReference r = .ok c →
      Client.resolve (Text.trimmed text) = .ok c ∧ c.tag = r.tag ∧ c.digest = r.digest ∧
        (c.registry, c.repository) = Client.rename r.registry r.repository) ∧
    (∀ text c, Client.resolve (Text.trimmed text) = .ok c →
      ∃ r, parse text = .ok r ∧
        (¬ Client.CapitalFolder (Text.trimmed text).toList →
          Registry.clientReference r = .ok c) ∧
        (Client.CapitalFolder (Text.trimmed text).toList →
          Registry.clientReference r = .error (.invalidReference
            ("'" ++ r.full ++ "': " ++ Client.Fault.format.message)))) := by
  refine ⟨fun text c => Client.resolve_eq_ok_iff, fun text r c => ?_, fun text c => ?_⟩
  · exact resolve_of_clientReference
  · exact clientReference_of_resolve

/-- The second name of the default registry gives way to the first, a folder is kept, and a
folder with a capital letter is refused. -/
theorem client_agrees_folders :
    (Client.resolve (Text.trimmed " index.docker.io/probe:v1") =
        .ok ⟨"docker.io", "library/probe", some "v1", none⟩ ∧
      ("docker.io", "library/probe") = Client.rename "index.docker.io" "probe") ∧
    (Client.Denotes "org/probe".toList ⟨"docker.io", "org/probe", some "latest", none⟩ ∧
      ∃ r, parse "org/probe" = .ok r ∧
        Registry.clientReference r = .ok ⟨"docker.io", "org/probe", some "latest", none⟩) ∧
    (Client.resolve "Org/probe" = .ok ⟨"docker.io", "Org/probe", some "latest", none⟩ ∧
      ∃ r error, parse "Org/probe" = .ok r ∧ Registry.clientReference r = .error error) := by
  obtain ⟨grammar, written, typed⟩ := client_agrees
  obtain ⟨same, -, -, renamed⟩ := written " index.docker.io/probe:v1"
    ⟨"index.docker.io", "probe", some "v1", none⟩ _ rfl rfl
  obtain ⟨kept, read, kept_ok, -⟩ := typed "org/probe" _ rfl
  obtain ⟨refused, also, -, refused_error⟩ := typed "Org/probe" _ rfl
  exact ⟨⟨same, renamed⟩, ⟨(grammar "org/probe" _).mp rfl, kept, read, kept_ok (by decide)⟩,
    rfl, refused, _, also, refused_error (by decide)⟩

end Reference

end BpfDepot
