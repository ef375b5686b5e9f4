import BpfDepot.Proofs.Reference.Split

/-! # Canonical forms of references

Reading a reference fills in what was left out, so writing the result down gives a
text that reads back as itself. `Reference.IsCanonical` says which registries,
repositories, tags and digests can come out of reading, and
`Reference.canonical_forms` that these are exactly the ones that survive being
written with nothing left out and read again.
-/

namespace BpfDepot.Reference

/-- What the parts of a reference must be like so that the cuts fall between them. -/
structure IsCanonical (r : Reference) : Prop where
  /-- The registry is the part before the first slash. -/
  registry_slash : '/' ∉ r.registry.toList
  /-- Nothing is trimmed off the front. -/
  registry_front : ∀ c, r.registry.toList.head? = some c → Text.isBlank c = false
  /-- The registry is not taken for a folder. -/
  registry_host : '.' ∈ r.registry.toList ∨ ':' ∈ r.registry.toList ∨ r.registry = "localhost"
  repository_ne : r.repository ≠ ""
  /-- A tag is the part after the last colon of the last piece. -/
  tag_shape : ∀ tag, r.tag = some tag → tag ≠ "" ∧ ':' ∉ tag.toList ∧ '/' ∉ tag.toList
  /-- A digest is the part after the last at sign. -/
  digest_shape : ∀ digest, r.digest = some digest → ':' ∈ digest.toList ∧ '@' ∉ digest.toList
  /-- The default tag is there if nothing else is. -/
  pinned : r.tag.isSome ∨ r.digest.isSome
  /-- The end of the repository is not taken for a tag. -/
  untagged : r.tag = none → ':' ∉ Text.lastPiece '/' r.repository.toList
  /-- The end of the reference is not taken for a digest. -/
  undigested : r.digest = none → '@' ∉ r.registry.toList ∧ '@' ∉ r.repository.toList ∧
    ∀ tag, r.tag = some tag → '@' ∉ tag.toList
  /-- Nothing is trimmed off the back. -/
  back : ∀ last c, (r.digest <|> r.tag) = some last → last.toList.getLast? = some c →
    Text.isBlank c = false

/-- The characters of an optional part and of the mark before it. -/
def marked (mark : Char) : Option String → List Char
  | some part => mark :: part.toList
  | none => []

theorem toList_full (r : Reference) :
    r.full.toList = (r.registry.toList ++ '/' :: r.repository.toList ++ marked ':' r.tag) ++
      marked '@' r.digest := by
  obtain ⟨registry, repository, tag, digest⟩ := r
  cases tag <;> cases digest <;> simp [full, marked]

theorem isRegistry_iff {registry : String} :
    isRegistry registry.toList = true ↔
      '.' ∈ registry.toList ∨ ':' ∈ registry.toList ∨ registry = "localhost" := by
  unfold isRegistry
  rw [Bool.or_eq_true, Bool.or_eq_true, List.contains_iff_mem, List.contains_iff_mem,
    beq_iff_eq, String.toList_inj, or_assoc]

/-- The reference that the cut parts of a text make, with the default tag where
nothing else names a version. -/
def assemble (registry repository : List Char) (tag digest : Option (List Char)) : Reference where
  registry := String.ofList registry
  repository := String.ofList repository
  tag := match tag, digest with
    | some tag, _ => some (String.ofList tag)
    | none, none => some defaultTag
    | none, some _ => none
  digest := digest.map String.ofList

/-- Reading a text with nothing to trim, cut by cut. -/
theorem parseTrimmed_eq_ok_iff {text : List Char} {r : Reference} :
    parseTrimmed text = .ok r ↔ text ≠ [] ∧
      ∃ nameTag digest name tag registry repository,
        splitDigest text = (nameTag, digest) ∧ (∀ d, digest = some d → ':' ∈ d) ∧
        splitTag nameTag = (name, tag) ∧ tag ≠ some [] ∧
        splitRegistry name = some (registry, repository) ∧
        r = assemble registry repository tag digest := by
  rcases cut : splitDigest text with ⟨nameTag, digest⟩
  rcases tagged : splitTag nameTag with ⟨name, tag⟩
  have unread : parseTrimmed text =
      if text = [] then .error .empty
      else if digest.any fun d => !d.contains ':' then
        .error (.digestWithoutAlgorithm (String.ofList text))
      else if tag = some [] then .error (.emptyTag (String.ofList text))
      else (splitRegistry name).elim (.error (.emptyRepository (String.ofList text)))
        fun parts => .ok (assemble parts.1 parts.2 tag digest) := by
    simp only [parseTrimmed, cut, tagged]
    cases splitRegistry name <;> rfl
  have algorithm : (digest.any fun d => !d.contains ':') = false ↔
      ∀ d, digest = some d → ':' ∈ d := by
    cases digest <;> simp
  rw [unread]
  constructor
  · intro read
    split at read
    · cases read
    next named =>
      split at read
      · cases read
      next digestNamed =>
        split at read
        · cases read
        next tagNamed =>
          cases found : splitRegistry name with
          | none =>
              rw [found] at read
              cases read
          | some parts =>
              rw [found] at read
              refine ⟨named, nameTag, digest, name, tag, parts.1, parts.2, rfl, ?_, tagged,
                tagNamed, found, (Except.ok.inj read).symm⟩
              exact algorithm.mp (Bool.not_eq_true _ ▸ digestNamed)
  · rintro ⟨named, nameTag', digest', name', tag', registry, repository, split, digestNamed,
      splitTagged, tagNamed, found, rfl⟩
    obtain ⟨rfl, rfl⟩ := Prod.mk.inj split
    obtain ⟨rfl, rfl⟩ := Prod.mk.inj (tagged.symm.trans splitTagged)
    simp only [named, algorithm.mpr digestNamed, tagNamed, found, Bool.false_eq_true, ↓reduceIte,
      Option.elim]

theorem getLast?_full {r : Reference} (shape : r.IsCanonical) {c : Char}
    (last : r.full.toList.getLast? = some c) : Text.isBlank c = false := by
  obtain ⟨registry, repository, tag, digest⟩ := r
  have ends (before : List Char) (mark : Char) (part : String) (named : part.toList ≠ []) :
      (before ++ mark :: part.toList).getLast? = part.toList.getLast? := by
    rw [List.getLast?_append, List.getLast?_cons_of_ne_nil named,
      List.getLast?_eq_some_getLast named]
    rfl
  rw [toList_full] at last
  cases digest with
  | some digest =>
      have named : digest.toList ≠ [] := List.ne_nil_of_mem (shape.digest_shape digest rfl).1
      rw [marked, ends _ _ _ named] at last
      exact shape.back digest c rfl last
  | none =>
      cases tag with
      | some tag =>
          have named : tag.toList ≠ [] := fun empty =>
            (shape.tag_shape tag rfl).1 (String.toList_eq_nil_iff.mp empty)
          rw [marked, marked, List.append_nil, ends _ _ _ named] at last
          exact shape.back tag c rfl last
      | none => exact (shape.pinned.elim Bool.false_ne_true Bool.false_ne_true).elim

/-- The first cut of a reference that is written falls before its digest. -/
theorem splitDigest_full {r : Reference} (shape : r.IsCanonical) :
    splitDigest r.full.toList = (r.registry.toList ++ '/' :: r.repository.toList ++
      marked ':' r.tag, r.digest.map String.toList) := by
  rw [toList_full]
  cases given : r.digest with
  | some digest =>
      exact splitDigest_eq_some_iff.mpr ⟨rfl, (shape.digest_shape digest given).2⟩
  | none =>
      rw [marked, List.append_nil]
      refine splitDigest_eq_none_iff.mpr ⟨rfl, ?_⟩
      obtain ⟨inRegistry, inRepository, inTag⟩ := shape.undigested given
      cases tagged : r.tag <;> simp_all [marked]

/-- The second cut falls before its tag. -/
theorem splitTag_full {r : Reference} (shape : r.IsCanonical) :
    splitTag (r.registry.toList ++ '/' :: r.repository.toList ++ marked ':' r.tag) =
      (r.registry.toList ++ '/' :: r.repository.toList, r.tag.map String.toList) := by
  cases given : r.tag with
  | some tag =>
      exact splitTag_eq_some_iff.mpr ⟨rfl, (shape.tag_shape tag given).2⟩
  | none =>
      rw [marked, List.append_nil]
      refine splitTag_eq_none_iff.mpr ⟨rfl, ?_⟩
      rw [Text.lastPiece_append]
      exact shape.untagged given

/-- A reference whose parts are of the right shape survives being written and read. -/
theorem parse_full {r : Reference} (shape : r.IsCanonical) : parse r.full = .ok r := by
  have host : isRegistry r.registry.toList = true := isRegistry_iff.mpr shape.registry_host
  have hostNamed : r.registry.toList ≠ [] := by
    intro empty
    rw [empty] at host
    exact absurd host (by decide)
  have named : r.repository.toList ≠ [] := fun empty =>
    shape.repository_ne (String.toList_eq_nil_iff.mp empty)
  have front : ∀ c, r.full.toList.head? = some c → Text.isBlank c = false := by
    intro c first
    rw [toList_full, List.append_assoc, List.append_assoc, List.head?_append] at first
    cases whole : r.registry.toList with
    | nil => exact absurd whole hostNamed
    | cons d rest =>
        rw [whole] at first
        exact shape.registry_front c (by rw [whole]; exact first)
  have trimmed : Text.trim r.full.toList = r.full.toList :=
    Text.trim_eq_self front fun c last => getLast?_full shape last
  have split := splitRegistry_append shape.registry_slash host named
  unfold parse
  rw [trimmed, parseTrimmed_eq_ok_iff]
  refine ⟨by simp [toList_full, hostNamed], _, _, _, _, _, _, splitDigest_full shape, ?_,
    splitTag_full shape, ?_, split, ?_⟩
  · intro d same
    obtain ⟨digest, given, rfl⟩ := Option.map_eq_some_iff.mp same
    exact (shape.digest_shape digest given).1
  · intro same
    obtain ⟨tag, given, empty⟩ := Option.map_eq_some_iff.mp same
    exact (shape.tag_shape tag given).1 (String.toList_eq_nil_iff.mp empty)
  · obtain ⟨registry, repository, tag, digest⟩ := r
    have pinned := shape.pinned
    cases tag <;> cases digest <;> simp_all [assemble]

theorem isPrefix_splitDigest {text name : List Char} {digest : Option (List Char)}
    (cut : splitDigest text = (name, digest)) : name <+: text := by
  cases digest with
  | some digest =>
      rw [(splitDigest_eq_some_iff.mp cut).1]
      exact List.prefix_append _ _
  | none =>
      obtain ⟨rfl, -⟩ := splitDigest_eq_none_iff.mp cut
      exact List.prefix_rfl

theorem isPrefix_splitTag {text name : List Char} {tag : Option (List Char)}
    (cut : splitTag text = (name, tag)) : name <+: text := by
  cases tag with
  | some tag =>
      rw [(splitTag_eq_some_iff.mp cut).1]
      exact List.prefix_append _ _
  | none =>
      obtain ⟨rfl, -⟩ := splitTag_eq_none_iff.mp cut
      exact List.prefix_rfl

/-- A registry that is read is the host of one, and holds no blank in front. -/
theorem registry_of_split {text name registry repository : List Char}
    (split : splitRegistry name = some (registry, repository)) (front : name <+: text)
    (trimmed : ∀ c, text.head? = some c → Text.isBlank c = false) :
    isRegistry registry = true ∧ '/' ∉ registry ∧
      ∀ c, registry.head? = some c → Text.isBlank c = false := by
  obtain ⟨-, ⟨host, noSlash, joined⟩ | ⟨rfl, -⟩⟩ := splitRegistry_eq_some split
  · refine ⟨host, noSlash, ?_⟩
    intro c first
    obtain ⟨rest, whole⟩ := front
    apply trimmed
    rw [← whole, joined, List.append_assoc, List.head?_append, first]
    rfl
  · refine ⟨by decide, by decide, ?_⟩
    intro c first
    have : c = 'd' := (Option.some.inj first).symm
    rw [this]
    decide

/-- A character of a registry or a repository that is neither in the default
registry nor in the path of its default folder comes from the name. -/
theorem mem_of_split {name registry repository : List Char} {c : Char}
    (split : splitRegistry name = some (registry, repository))
    (foreign : c ∉ defaultRegistry.toList ++ '/' :: defaultFolder.toList) :
    c ∈ registry ∨ c ∈ repository → c ∈ name := by
  rw [List.mem_append, List.mem_cons, not_or, not_or] at foreign
  obtain ⟨notHost, notSlash, notFolder⟩ := foreign
  obtain ⟨-, ⟨-, -, joined⟩ | ⟨rfl, -, rfl | ⟨-, rfl⟩⟩⟩ := splitRegistry_eq_some split
  · rintro (member | member)
    · rw [joined]
      exact List.mem_append_left _ member
    · rw [joined]
      exact List.mem_append_right _ (List.mem_cons_of_mem _ member)
  · rintro (member | member)
    · exact absurd member notHost
    · exact member
  · rintro (member | member)
    · exact absurd member notHost
    · rw [List.mem_append, List.mem_cons] at member
      exact (member.resolve_left notFolder).resolve_left notSlash

/-- The repository ends in the last piece of the name. -/
theorem lastPiece_of_split {name registry repository : List Char}
    (split : splitRegistry name = some (registry, repository)) :
    Text.lastPiece '/' repository = Text.lastPiece '/' name := by
  obtain ⟨-, ⟨-, -, rfl⟩ | ⟨-, -, rfl | ⟨-, rfl⟩⟩⟩ := splitRegistry_eq_some split
  · rw [Text.lastPiece_append]
  · rfl
  · rw [Text.lastPiece_append]

/-- The tag of an assembled reference was cut off, or it is the default tag. -/
theorem tag_of_assemble {registry repository : List Char} {tag digest : Option (List Char)}
    {written : String} (same : (assemble registry repository tag digest).tag = some written) :
    (∃ part, tag = some part ∧ String.ofList part = written) ∨
      tag = none ∧ digest = none ∧ defaultTag = written := by
  cases tag with
  | some part => exact Or.inl ⟨part, rfl, Option.some.inj same⟩
  | none =>
      cases digest with
      | some digest => cases same
      | none => exact Or.inr ⟨rfl, rfl, Option.some.inj same⟩

/-- Without a digest no part that was cut off holds an at sign. -/
theorem undigested_of_cut {text name registry repository : List Char} {tag : Option (List Char)}
    (noAt : '@' ∉ text) (tagged : splitTag text = (name, tag))
    (split : splitRegistry name = some (registry, repository)) :
    '@' ∉ registry ∧ '@' ∉ repository ∧ ∀ part, tag = some part → '@' ∉ part := by
  have noName : '@' ∉ name := fun member => noAt ((isPrefix_splitTag tagged).subset member)
  have clear := mem_of_split (c := '@') split (by decide)
  refine ⟨fun member => noName (clear (Or.inl member)),
    fun member => noName (clear (Or.inr member)), ?_⟩
  rintro part rfl member
  rw [(splitTag_eq_some_iff.mp tagged).1] at noAt
  exact noAt (List.mem_append_right _ (List.mem_cons_of_mem _ member))

/-- The last part that was cut off a trimmed text does not end in a blank. -/
theorem back_of_cut {text nameTag name registry repository : List Char}
    {tag digest : Option (List Char)} (cut : splitDigest (Text.trim text) = (nameTag, digest))
    (tagged : splitTag nameTag = (name, tag)) {last : String} {c : Char}
    (same : ((assemble registry repository tag digest).digest <|>
      (assemble registry repository tag digest).tag) = some last)
    (final : last.toList.getLast? = some c) : Text.isBlank c = false := by
  have ends (before part : List Char) (mark : Char)
      (whole : Text.trim text = before ++ mark :: part) (given : part.getLast? = some c) :
      Text.isBlank c = false := by
    have last : (Text.trim text).getLast? = some c := by
      rw [whole, List.getLast?_append, List.getLast?_cons, given]
      rfl
    exact Text.getLast?_trim last
  cases digest with
  | some digest =>
      obtain rfl := Option.some.inj same
      rw [String.toList_ofList] at final
      exact ends nameTag digest '@' (splitDigest_eq_some_iff.mp cut).1 final
  | none =>
      obtain ⟨rfl, -⟩ := splitDigest_eq_none_iff.mp cut
      have same : (assemble registry repository tag none).tag = some last := same
      rcases tag_of_assemble same with ⟨part, rfl, rfl⟩ | ⟨rfl, -, rfl⟩
      · rw [String.toList_ofList] at final
        exact ends name part ':' (splitTag_eq_some_iff.mp tagged).1 final
      · have : c = 't' := (Option.some.inj final).symm
        rw [this]
        decide

/-- A text that is read gives parts of the right shape. -/
theorem isCanonical_of_parse {text : String} {r : Reference} (read : parse text = .ok r) :
    r.IsCanonical := by
  obtain ⟨-, nameTag, digest, name, tag, registry, repository, cut, algorithm, tagged,
    tagNamed, split, rfl⟩ := parseTrimmed_eq_ok_iff.mp read
  have front : name <+: Text.trim text.toList :=
    (isPrefix_splitTag tagged).trans (isPrefix_splitDigest cut)
  obtain ⟨host, noSlash, registryFront⟩ :=
    registry_of_split split front fun c => Text.head?_trim
  have named : repository ≠ [] := (splitRegistry_eq_some split).1
  refine
    { registry_slash := by simpa [assemble] using noSlash
      registry_front := by simpa [assemble] using registryFront
      registry_host := by
        apply isRegistry_iff.mp
        simpa [assemble] using host
      repository_ne := by simpa [assemble, String.ofList_eq_empty_iff] using named
      tag_shape := ?_
      digest_shape := ?_
      pinned := by cases tag <;> cases digest <;> simp [assemble]
      untagged := ?_
      undigested := ?_
      back := fun _ _ same final => back_of_cut cut tagged same final }
  · intro written same
    rcases tag_of_assemble same with ⟨part, rfl, rfl⟩ | ⟨-, -, rfl⟩
    · obtain ⟨-, noColon, noSlash⟩ := splitTag_eq_some_iff.mp tagged
      refine ⟨fun empty => tagNamed ?_, by simpa using noColon, by simpa using noSlash⟩
      rw [String.ofList_eq_empty_iff.mp empty]
    · decide
  · intro written same
    obtain ⟨digest, rfl, rfl⟩ := Option.map_eq_some_iff.mp same
    rw [String.toList_ofList]
    exact ⟨algorithm digest rfl, (splitDigest_eq_some_iff.mp cut).2⟩
  · intro absent
    cases tag with
    | some tag => cases absent
    | none =>
        obtain ⟨rfl, noColon⟩ := splitTag_eq_none_iff.mp tagged
        simpa [assemble, lastPiece_of_split split] using noColon
  · intro absent
    obtain rfl := Option.map_eq_none_iff.mp absent
    obtain ⟨rfl, noAt⟩ := splitDigest_eq_none_iff.mp cut
    obtain ⟨inRegistry, inRepository, inTag⟩ := undigested_of_cut noAt tagged split
    refine ⟨by simpa [assemble] using inRegistry, by simpa [assemble] using inRepository, ?_⟩
    intro written same
    rcases tag_of_assemble same with ⟨part, given, rfl⟩ | ⟨-, -, rfl⟩
    · rw [String.toList_ofList]
      exact inTag part given
    · decide

/-- **Canonical forms.** Whatever is read survives being written with nothing left
out, so a canonical text is its own canonical text and tells its reference; and the
references that survive are those whose parts are of the right shape. -/
theorem canonical_forms :
    (∀ text r, parse text = .ok r → parse r.full = .ok r) ∧
    (∀ text key, canonical text = .ok key → canonical key = .ok key) ∧
    (∀ text other r s, parse text = .ok r → parse other = .ok s → r.full = s.full → r = s) ∧
    (∀ r : Reference, parse r.full = .ok r ↔ r.IsCanonical) := by
  have survives (text : String) (r : Reference) (read : parse text = .ok r) :
      parse r.full = .ok r := parse_full (isCanonical_of_parse read)
  refine ⟨survives, ?_, ?_, fun r => ⟨isCanonical_of_parse, parse_full⟩⟩
  · intro text key given
    unfold canonical at given ⊢
    cases read : parse text with
    | error fault =>
        rw [read] at given
        cases given
    | ok r =>
        rw [read] at given
        obtain rfl := Except.ok.inj given
        rw [survives text r read]
        rfl
  · intro text other r s first second same
    have again := survives text r first
    rw [same, survives other s second] at again
    exact (Except.ok.inj again).symm

/-- Of three pieces between colons the last is the tag, in the text as it is typed
and in the canonical text. -/
theorem canonical_forms_colons :
    parse "a:b:c" = .ok ⟨"docker.io", "library/a:b", some "c", none⟩ ∧
      parse (full ⟨"docker.io", "library/a:b", some "c", none⟩) =
        .ok ⟨"docker.io", "library/a:b", some "c", none⟩ :=
  ⟨rfl, canonical_forms.1 "a:b:c" _ rfl⟩

end BpfDepot.Reference
