import BpfDepot.Proofs.Reference.Canonical
import BpfDepot.Proofs.Reference.Grammar

/-! # What a client makes of a text

The whole expression of a client is `Client.Grammar.reference`. No group of it can begin
or end elsewhere than at the marks that the client cuts at, so a text that the expression
fits is cut into its groups in one way only (`Client.matches_iff`). A client refuses the
form of a text exactly if the expression does not fit it (`Client.resolve_eq_format_iff`),
and what it makes of the others is told by their groups (`Client.resolve_eq_ok_iff`).
-/

namespace BpfDepot.Client

open Text
open scoped Computability

/-- The whole expression: a name, a tag behind a colon and a digest behind an at sign. -/
def Grammar.reference : Language Char :=
  name * maybe (mark ':' * tag) * maybe (mark '@' * digest)

/-- A text is made of groups that fit. -/
structure Matches (text name : List Char) (tag digest : Option (List Char)) : Prop where
  /-- The groups are the text, the last two behind their marks. -/
  whole : text = name ++ tag.elim [] (':' :: ·) ++ digest.elim [] ('@' :: ·)
  name_fits : name ∈ Grammar.name
  tag_fits : ∀ part, tag = some part → part ∈ Grammar.tag
  digest_fits : ∀ part, digest = some part → part ∈ Grammar.digest

variable {text name nameTag : List Char} {tag digest : Option (List Char)}

/-- An optional group behind its mark. -/
theorem mem_maybe_mark_iff {sep : Char} {group : Language Char} :
    text ∈ maybe (mark sep * group) ↔ ∃ part : Option (List Char),
      text = part.elim [] (sep :: ·) ∧ ∀ inside, part = some inside → inside ∈ group := by
  rw [mem_maybe_iff, Language.mem_mul]
  constructor
  · rintro (rfl | ⟨_, marked, part, fits, rfl⟩)
    · exact ⟨none, rfl, fun _ same => nomatch same⟩
    · obtain rfl := mem_mark_iff.mp marked
      exact ⟨some part, rfl, fun inside same => Option.some.inj same ▸ fits⟩
  · rintro ⟨part, rfl, fits⟩
    cases part with
    | none => exact Or.inl rfl
    | some part => exact Or.inr ⟨[sep], singleton_mem_mark sep, part, fits part rfl, rfl⟩

theorem mem_reference_iff :
    text ∈ Grammar.reference ↔ ∃ name tag digest, Matches text name tag digest := by
  simp only [Grammar.reference, Language.mem_mul, mem_maybe_mark_iff]
  constructor
  · rintro ⟨_, ⟨name, named, _, ⟨tag, rfl, tagged⟩, rfl⟩, _, ⟨digest, rfl, pinned⟩, rfl⟩
    exact ⟨name, tag, digest, rfl, named, tagged, pinned⟩
  · rintro ⟨name, tag, digest, rfl, named, tagged, pinned⟩
    exact ⟨_, ⟨name, named, _, ⟨tag, rfl, tagged⟩, rfl⟩, _, ⟨digest, rfl, pinned⟩, rfl⟩

/-! ## The marks between the groups -/

/-- What the path of a name is made of. -/
theorem over_path : Over (fun c => (isSmallOrDigit c = true ∨ c = '.' ∨ c = '_' ∨ c = '-') ∨
    c = '/') Grammar.path := by
  have each : Over (fun c => (isSmallOrDigit c = true ∨ c = '.' ∨ c = '_' ∨ c = '-') ∨ c = '/')
      Grammar.component := over_component.mono fun _ fits => Or.inl fits
  exact each.mul ((Over.mark (Or.inr rfl)).mul each).star

theorem not_mem_name (named : name ∈ Grammar.name) : '@' ∉ name := by
  rcases mem_name_iff.mp named with path | ⟨host, hosted, path, inside, rfl⟩
  · exact over_path.not_mem path (by decide)
  · have inHost : '@' ∉ host := over_host.not_mem hosted (by decide)
    have inPath : '@' ∉ path := over_path.not_mem inside (by decide)
    simp [inHost, inPath]

/-- The end of a name is not taken for a tag. -/
theorem not_mem_lastPiece (named : name ∈ Grammar.name) : ':' ∉ lastPiece '/' name := by
  have clear {path : List Char} (inside : path ∈ Grammar.path) : ':' ∉ lastPiece '/' path :=
    fun member => over_path.not_mem inside (by decide) (mem_of_mem_lastPiece member)
  rcases mem_name_iff.mp named with path | ⟨host, hosted, path, inside, rfl⟩
  · exact clear path
  · rw [lastPiece_append]
    exact clear inside

/-- What a tag is made of. -/
theorem over_tag : Over (fun c => (isWord c || c == '.' || c == '-') = true) Grammar.tag := by
  refine (Over.one fun c word => ?_).mul fun text member c inside => ?_
  · rw [word, Bool.true_or, Bool.true_or]
  · exact (mem_times_one_iff.mp member).2 c inside

/-- A tag has none of the marks between the groups and between the parts of a name. -/
theorem not_mem_tag (tagged : text ∈ Grammar.tag) : '@' ∉ text ∧ ':' ∉ text ∧ '/' ∉ text := by
  have noWord : isWord '@' = false ∧ isWord ':' = false ∧ isWord '/' = false := by decide +kernel
  refine ⟨over_tag.not_mem tagged ?_, over_tag.not_mem tagged ?_, over_tag.not_mem tagged ?_⟩
  all_goals simp [noWord]

/-- What a digest is made of. -/
theorem over_digest : Over (fun c => ((isLetterOrDigit c = true ∨
    ['-', '_', '+', '.'].contains c = true) ∨ c = ':') ∨ isHexDigit c = true) Grammar.digest := by
  have named : Over (fun c => ((isLetterOrDigit c = true ∨
      ['-', '_', '+', '.'].contains c = true) ∨ c = ':') ∨ isHexDigit c = true)
      Grammar.algorithm := over_algorithm.mono fun _ fits => Or.inl (Or.inl fits)
  refine (named.mul (Over.mark (Or.inl (Or.inr rfl)))).mul fun text member c inside => ?_
  exact Or.inr ((mem_times_one_iff.mp member).2 c inside)

namespace Matches

/-- The digest is what follows the last at sign. -/
theorem splitDigest (fits : Matches text name tag digest) :
    Reference.splitDigest text = (name ++ tag.elim [] (':' :: ·), digest) := by
  obtain ⟨rfl, named, tagged, pinned⟩ := fits
  cases digest with
  | some digest =>
      exact Reference.splitDigest_eq_some_iff.mpr
        ⟨rfl, over_digest.not_mem (pinned digest rfl) (by decide)⟩
  | none =>
      refine Reference.splitDigest_eq_none_iff.mpr ⟨(List.append_nil _).symm, ?_⟩
      have inName := not_mem_name named
      cases tag with
      | none => simpa using inName
      | some tag =>
          have inTag : '@' ∉ tag := (not_mem_tag (tagged tag rfl)).1
          simp [inName, inTag]

/-- The tag is what follows the last colon before it. -/
theorem splitTag (fits : Matches text name tag digest) :
    Reference.splitTag (name ++ tag.elim [] (':' :: ·)) = (name, tag) := by
  cases tag with
  | some tag =>
      exact Reference.splitTag_eq_some_iff.mpr ⟨rfl, (not_mem_tag (fits.tag_fits tag rfl)).2⟩
  | none =>
      refine Reference.splitTag_eq_none_iff.mpr ⟨(List.append_nil _).symm, ?_⟩
      simpa using not_mem_lastPiece fits.name_fits

end Matches

theorem all_isTag_iff : tag.all isTag = true ↔ ∀ part, tag = some part → part ∈ Grammar.tag := by
  cases tag <;> simp [isTag_iff]

theorem all_isDigest_iff :
    digest.all isDigest = true ↔ ∀ part, digest = some part → part ∈ Grammar.digest := by
  cases digest <;> simp [isDigest_iff]

/-- **Groups.** The groups of a text are the parts that it is cut into, if they fit. -/
theorem matches_iff : Matches text name tag digest ↔
    ∃ nameTag, Reference.splitDigest text = (nameTag, digest) ∧
      Reference.splitTag nameTag = (name, tag) ∧
      (isName name && tag.all isTag && digest.all isDigest) = true := by
  rw [Bool.and_eq_true, Bool.and_eq_true, isName_iff, all_isTag_iff, all_isDigest_iff]
  constructor
  · intro fits
    exact ⟨_, fits.splitDigest, fits.splitTag, ⟨fits.name_fits, fits.tag_fits⟩, fits.digest_fits⟩
  · rintro ⟨nameTag, cut, tagged, ⟨named, tag_fits⟩, digest_fits⟩
    refine ⟨?_, named, tag_fits, digest_fits⟩
    have front : nameTag = name ++ tag.elim [] (':' :: ·) := by
      cases tag with
      | some tag => exact (Reference.splitTag_eq_some_iff.mp tagged).1
      | none => rw [Option.elim, List.append_nil, (Reference.splitTag_eq_none_iff.mp tagged).1]
    rw [← front]
    cases digest with
    | some digest => exact (Reference.splitDigest_eq_some_iff.mp cut).1
    | none => rw [Option.elim, List.append_nil, (Reference.splitDigest_eq_none_iff.mp cut).1]

/-! ## Resolution -/

/-- The algorithms that a client knows, with the number of digits of their digests. -/
def algorithms : List (String × Nat) := [("sha256", 64), ("sha384", 96), ("sha512", 128)]

/-- A digest is of an algorithm that the client knows, and of its length. -/
def IsKnown (digest : List Char) : Prop :=
  ∃ algorithm ∈ algorithms, digest.take 6 = algorithm.1.toList ∧
    (digest.drop 7).length = algorithm.2

/-- Checking a digest compares its length to that of a known algorithm. -/
theorem checkDigest_eq (digest : List Char) :
    checkDigest digest = .error .unknownAlgorithm ∧
        (∀ algorithm ∈ algorithms, digest.take 6 ≠ algorithm.1.toList) ∨
      ∃ algorithm ∈ algorithms, digest.take 6 = algorithm.1.toList ∧
        checkDigest digest =
          if (digest.drop 7).length = algorithm.2 then .ok () else .error .digestLength := by
  have named (algorithm : String) :
      digest.take 6 = algorithm.toList ↔ String.ofList (digest.take 6) = algorithm := by
    rw [← String.toList_inj, String.toList_ofList]
  unfold checkDigest
  split
  · next same => exact Or.inr ⟨("sha256", 64), by decide, (named _).mpr same, rfl⟩
  · next same => exact Or.inr ⟨("sha384", 96), by decide, (named _).mpr same, rfl⟩
  · next same => exact Or.inr ⟨("sha512", 128), by decide, (named _).mpr same, rfl⟩
  · next first second third =>
    refine Or.inl ⟨rfl, ?_⟩
    simp only [algorithms, List.forall_mem_cons, ne_eq, named]
    exact ⟨first, second, third, by simp⟩

theorem checkDigest_eq_ok_iff {digest : List Char} :
    checkDigest digest = .ok () ↔ IsKnown digest := by
  have single : ∀ first ∈ algorithms, ∀ second ∈ algorithms,
      first.1.toList = second.1.toList → first = second := by decide
  rcases checkDigest_eq digest with ⟨refused, foreign⟩ | ⟨algorithm, known, named, checked⟩
  · rw [refused]
    constructor
    · intro accepted
      cases accepted
    · rintro ⟨algorithm, known, named, -⟩
      exact absurd named (foreign algorithm known)
  · rw [checked]
    constructor
    · intro accepted
      split at accepted
      · next sized => exact ⟨algorithm, known, named, sized⟩
      · cases accepted
    · rintro ⟨other, also, same, sized⟩
      obtain rfl := single algorithm known other also (named.symm.trans same)
      exact if_pos sized

/-- What a check of a digest complains of is not its form. -/
theorem checkDigest_ne_format (digest : List Char) : checkDigest digest ≠ .error .format := by
  rcases checkDigest_eq digest with ⟨refused, -⟩ | ⟨algorithm, -, -, checked⟩
  · rw [refused]
    exact fun same => nomatch same
  · rw [checked]
    split <;> exact fun same => nomatch same

/-- The parts that a text is cut into decide what the client makes of it. -/
theorem resolve_of_cut {text : String} (cut : Reference.splitDigest text.toList = (nameTag, digest))
    (tagged : Reference.splitTag nameTag = (name, tag)) :
    resolve text =
      if isName name && tag.all isTag && digest.all isDigest then
        if 255 < (splitName name).2.utf8ByteSize then .error .repositoryTooLong
        else (digest.elim (.ok ()) checkDigest).map fun _ =>
          Reference.assemble (splitName name).1.toList (splitName name).2.toList tag digest
      else .error .format := by
  unfold resolve
  simp only [cut, tagged]
  cases isName name && tag.all isTag && digest.all isDigest with
  | false => rfl
  | true =>
      rw [Bool.not_true, if_neg Bool.false_ne_true, if_pos rfl]
      split
      · rfl
      · cases digest with
        | none => cases tag <;> simp [Reference.assemble, Except.map, pure, Except.pure]
        | some digest =>
            cases checked : checkDigest digest <;> cases tag <;>
              simp [checked, Reference.assemble, Except.map, pure, Except.pure, bind, Except.bind]

theorem resolve_eq_ok_iff_of_cut {text : String} {c : Reference}
    (cut : Reference.splitDigest text.toList = (nameTag, digest))
    (tagged : Reference.splitTag nameTag = (name, tag)) :
    resolve text = .ok c ↔
      (isName name && tag.all isTag && digest.all isDigest) = true ∧
        (splitName name).2.utf8ByteSize ≤ 255 ∧ (∀ part, digest = some part → IsKnown part) ∧
        c = Reference.assemble (splitName name).1.toList (splitName name).2.toList tag digest := by
  have known : digest.elim (.ok ()) checkDigest = .ok () ↔
      ∀ part, digest = some part → IsKnown part := by
    cases digest <;> simp [checkDigest_eq_ok_iff]
  rw [resolve_of_cut cut tagged, ← known, ← Nat.not_lt]
  constructor
  · intro resolved
    split at resolved
    · next fits =>
      split at resolved
      · cases resolved
      · next short =>
        cases checked : digest.elim (.ok ()) checkDigest with
        | error fault =>
            rw [checked] at resolved
            cases resolved
        | ok =>
            rw [checked] at resolved
            exact ⟨fits, short, rfl, (Except.ok.inj resolved).symm⟩
    · cases resolved
  · rintro ⟨fits, short, checked, rfl⟩
    rw [if_pos fits, if_neg short, checked]
    rfl

/-- What the expression and the splitting of names make of a text. -/
def Denotes (text : List Char) (c : Reference) : Prop :=
  ∃ name tag digest, Matches text name tag digest ∧
    (splitName name).2.utf8ByteSize ≤ 255 ∧ (∀ part, digest = some part → IsKnown part) ∧
    c = Reference.assemble (splitName name).1.toList (splitName name).2.toList tag digest

/-- **Resolution.** A client makes of a text what the expression and the splitting of names
make of it, and nothing else. -/
theorem resolve_eq_ok_iff {text : String} {c : Reference} :
    resolve text = .ok c ↔ Denotes text.toList c := by
  constructor
  · intro resolved
    rcases cut : Reference.splitDigest text.toList with ⟨nameTag, digest⟩
    rcases tagged : Reference.splitTag nameTag with ⟨name, tag⟩
    obtain ⟨fits, rest⟩ := (resolve_eq_ok_iff_of_cut cut tagged).mp resolved
    exact ⟨name, tag, digest, matches_iff.mpr ⟨nameTag, cut, tagged, fits⟩, rest⟩
  · rintro ⟨name, tag, digest, groups, rest⟩
    obtain ⟨nameTag, cut, tagged, fits⟩ := matches_iff.mp groups
    exact (resolve_eq_ok_iff_of_cut cut tagged).mpr ⟨fits, rest⟩

/-- A client refuses the form of the texts that the expression does not fit. -/
theorem resolve_eq_format_iff {text : String} :
    resolve text = .error .format ↔ text.toList ∉ Grammar.reference := by
  rcases cut : Reference.splitDigest text.toList with ⟨nameTag, digest⟩
  rcases tagged : Reference.splitTag nameTag with ⟨name, tag⟩
  rw [mem_reference_iff, resolve_of_cut cut tagged]
  constructor
  · rintro refused ⟨name', tag', digest', groups⟩
    obtain ⟨nameTag', cut', tagged', fits⟩ := matches_iff.mp groups
    obtain ⟨rfl, rfl⟩ := Prod.mk.inj (cut.symm.trans cut')
    obtain ⟨rfl, rfl⟩ := Prod.mk.inj (tagged.symm.trans tagged')
    rw [if_pos fits] at refused
    split at refused
    · cases refused
    · cases digest with
      | none => cases refused
      | some digest =>
          rw [Option.elim] at refused
          cases checked : checkDigest digest with
          | ok =>
              rw [checked] at refused
              cases refused
          | error fault =>
              rw [checked] at refused
              obtain rfl := Except.error.inj refused
              exact checkDigest_ne_format digest checked
  · intro unfit
    refine if_neg fun fits => unfit ?_
    exact ⟨name, tag, digest, matches_iff.mpr ⟨nameTag, cut, tagged, fits⟩⟩

end BpfDepot.Client
