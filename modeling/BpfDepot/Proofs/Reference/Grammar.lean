import BpfDepot.Proofs.Reference.Split
import BpfDepot.Proofs.Text.Pattern
import BpfDepot.Reference.Client

/-! # The grammar of a client

The grammar of a registry client is given as a regular expression with three groups, for
the name, the tag and the digest. `Client.Grammar` has the expression group by group. The
tests by which the client reads a text, character by character and piece by piece, accept
what the groups fit (`Client.isName_iff`, `Client.isTag_iff`, `Client.isDigest_iff`). A text
that the whole expression fits is cut into its groups in one way only
(`Client.matches_iff`), and so the client makes a reference of the texts that the expression
fits and of no others (`Client.resolve_eq_ok_iff`).
-/

namespace BpfDepot.Client

open Text
open scoped Computability

namespace Grammar

/-- Small letters and digits. -/
def small : Language Char := many (one isSmallOrDigit)

/-- What may stand between runs of small letters and digits. -/
def separator : Language Char :=
  one (fun c => c == '.' || c == '_') + mark '_' * mark '_' + (mark '-')∗

/-- A component of a path. -/
def component : Language Char := small * maybe (many (separator * small))

/-- A label of a host. -/
def label : Language Char :=
  one isLetterOrDigit +
    one isLetterOrDigit * (one fun c => isLetterOrDigit c || c == '-')∗ * one isLetterOrDigit

/-- A host. -/
def host : Language Char :=
  label * maybe (many (mark '.' * label)) * maybe (mark ':' * many (one Char.isDigit))

/-- The group of the name. -/
def name : Language Char :=
  maybe (host * mark '/') * component * maybe (many (mark '/' * component))

/-- The group of the tag. -/
def tag : Language Char :=
  one isWord * times (· ≤ 127) (one fun c => isWord c || c == '.' || c == '-')

/-- A word in the algorithm of a digest. -/
def word : Language Char := one isLetter * (one isLetterOrDigit)∗

/-- The algorithm of a digest. -/
def algorithm : Language Char := word * (one (['-', '_', '+', '.'].contains ·) * word)∗

/-- The group of the digest. -/
def digest : Language Char := algorithm * mark ':' * times (32 ≤ ·) (one isHexDigit)

end Grammar

variable {text rest : List Char}

/-! ## Components -/

/-- What completes a component after a letter. -/
def Grammar.tail : Language Char := (Grammar.separator * Grammar.small)∗

/-- What completes a component that ends in a given way so far. -/
def Grammar.after : Ending → Language Char
  | .letter => tail
  | .nothing | .point | .underscores => small * tail
  | .underscore => maybe (mark '_') * (small * tail)
  | .hyphens => (mark '-')∗ * (small * tail)

theorem next?_of_small {c : Char} (fits : isSmallOrDigit c = true) (ending : Ending) :
    ending.next? c = some .letter := by
  unfold Ending.next?
  rw [if_pos fits]

/-- A run of small letters and digits is behind a letter, whatever it was behind before. -/
theorem isComponentAfter_run {run : List Char} (member : run ∈ Grammar.small) (ending : Ending)
    (rest : List Char) : isComponentAfter ending (run ++ rest) = isComponentAfter .letter rest := by
  obtain ⟨present, all⟩ := mem_many_one_iff.mp member
  clear member
  induction run generalizing ending with
  | nil => exact absurd rfl present
  | cons c run ih =>
      have here := next?_of_small (all c List.mem_cons_self) ending
      rw [List.cons_append, isComponentAfter, here]
      cases run with
      | nil => rfl
      | cons d run =>
          exact ih _ (List.cons_ne_nil _ _) fun other inside =>
            all other (List.mem_cons_of_mem _ inside)

/-- Behind a separator a component has some ending. -/
theorem isComponentAfter_separator {between : List Char} (member : between ∈ Grammar.separator) :
    ∃ ending, ∀ rest, isComponentAfter .letter (between ++ rest) = isComponentAfter ending rest := by
  rcases member with (⟨c, either, rfl⟩ | double) | hyphens
  · rw [Bool.or_eq_true, beq_iff_eq, beq_iff_eq] at either
    rcases either with rfl | rfl
    · exact ⟨.point, fun _ => rfl⟩
    · exact ⟨.underscore, fun _ => rfl⟩
  · obtain ⟨_, first, _, second, rfl⟩ := Language.mem_mul.mp double
    obtain rfl := mem_mark_iff.mp first
    obtain rfl := mem_mark_iff.mp second
    exact ⟨.underscores, fun _ => rfl⟩
  · have all := mem_star_one_iff.mp hyphens
    -- all hyphens behind the first one change nothing
    have further (hyphens : List Char) (all : ∀ c ∈ hyphens, decide (c = '-') = true)
        (rest : List Char) :
        isComponentAfter .hyphens (hyphens ++ rest) = isComponentAfter .hyphens rest := by
      induction hyphens with
      | nil => rfl
      | cons c hyphens ih =>
          obtain rfl := of_decide_eq_true (all c List.mem_cons_self)
          exact ih fun d member => all d (List.mem_cons_of_mem _ member)
    cases between with
    | nil => exact ⟨.letter, fun _ => rfl⟩
    | cons c between =>
        obtain rfl := of_decide_eq_true (all c List.mem_cons_self)
        exact ⟨.hyphens, further between fun d member => all d (List.mem_cons_of_mem _ member)⟩

theorem isComponent_of_mem (member : text ∈ Grammar.component) : isComponent text = true := by
  rw [Grammar.component, maybe_many] at member
  obtain ⟨run, first, tail, further, rfl⟩ := Language.mem_mul.mp member
  rw [isComponent, isComponentAfter_run first]
  refine star_induction further rfl ?_
  rintro _ back ⟨between, apart, run, inside, rfl⟩ - accepted
  obtain ⟨ending, goes⟩ := isComponentAfter_separator apart
  rw [List.append_assoc, goes, isComponentAfter_run inside]
  exact accepted

/-- A separator and what may stand behind it complete a component after a letter. -/
theorem separator_append {between : List Char} (apart : between ∈ Grammar.separator)
    (behind : rest ∈ Grammar.small * Grammar.tail) : between ++ rest ∈ Grammar.tail := by
  obtain ⟨run, inside, tail, further, rfl⟩ := Language.mem_mul.mp behind
  rw [← List.append_assoc]
  exact append_mem_star (Language.append_mem_mul apart inside) further

/-- **Components.** What the test accepts after an ending completes a component. -/
theorem mem_after {ending : Ending} (accepted : isComponentAfter ending text = true) :
    text ∈ Grammar.after ending := by
  induction text generalizing ending with
  | nil =>
      obtain rfl := beq_iff_eq.mp accepted
      exact nil_mem_star _
  | cons c text ih =>
      rw [isComponentAfter] at accepted
      cases stepped : ending.next? c with
      | none =>
          rw [stepped] at accepted
          cases accepted
      | some next =>
          rw [stepped] at accepted
          have further := ih accepted
          unfold Ending.next? at stepped
          split at stepped
          · next fits =>
            obtain rfl := Option.some.inj stepped
            have begun : c :: text ∈ Grammar.small * Grammar.tail := by
              have first : [c] ∈ Grammar.small := mem_many_one_iff.mpr (by simpa using fits)
              exact Language.append_mem_mul first further
            cases ending with
            | letter => exact separator_append (Or.inr (nil_mem_star _)) begun
            | nothing | point | underscores => exact begun
            | underscore => exact Language.append_mem_mul (mem_maybe_iff.mpr (Or.inl rfl)) begun
            | hyphens => exact Language.append_mem_mul (nil_mem_star _) begun
          · split at stepped
            -- a point or an underscore after a letter
            · obtain rfl := Option.some.inj stepped
              exact separator_append (Or.inl (Or.inl ⟨'.', rfl, rfl⟩)) further
            · obtain rfl := Option.some.inj stepped
              obtain ⟨second, either, back, behind, rfl⟩ := Language.mem_mul.mp further
              rcases mem_maybe_iff.mp either with rfl | double
              · exact separator_append (Or.inl (Or.inl ⟨'_', rfl, rfl⟩)) behind
              · have both : '_' :: second ∈ mark '_' * mark '_' :=
                  Language.append_mem_mul (singleton_mem_mark '_') double
                exact separator_append (Or.inl (Or.inr both)) behind
            -- a second underscore
            · obtain rfl := Option.some.inj stepped
              have second : ['_'] ∈ maybe (mark '_') :=
                mem_maybe_iff.mpr (Or.inr (singleton_mem_mark '_'))
              exact Language.append_mem_mul second further
            -- hyphens
            · obtain rfl := Option.some.inj stepped
              obtain ⟨hyphens, more, back, behind, rfl⟩ := Language.mem_mul.mp further
              exact separator_append
                (Or.inr (append_mem_star (singleton_mem_mark '-') more)) behind
            · obtain rfl := Option.some.inj stepped
              obtain ⟨hyphens, more, back, behind, rfl⟩ := Language.mem_mul.mp further
              exact Language.append_mem_mul
                (append_mem_star (singleton_mem_mark '-') more) behind
            · cases stepped

theorem isComponent_iff : isComponent text = true ↔ text ∈ Grammar.component := by
  refine ⟨fun accepted => ?_, isComponent_of_mem⟩
  rw [Grammar.component, maybe_many]
  exact mem_after accepted

/-- What a component is made of. -/
theorem over_component :
    Over (fun c => isSmallOrDigit c = true ∨ c = '.' ∨ c = '_' ∨ c = '-') Grammar.component := by
  have run : Over (fun c => isSmallOrDigit c = true ∨ c = '.' ∨ c = '_' ∨ c = '-')
      Grammar.small := (Over.one fun c fits => Or.inl fits).many
  have between : Over (fun c => isSmallOrDigit c = true ∨ c = '.' ∨ c = '_' ∨ c = '-')
      Grammar.separator := by
    refine ((Over.one fun c either => ?_).add ((Over.mark (by decide)).mul
      (Over.mark (by decide)))).add (Over.mark (by decide)).star
    simpa [or_assoc] using Or.inr (Or.inl either)
  exact run.mul (between.mul run).many.maybe

/-! ## Hosts -/

/-- What a label is made of. -/
theorem over_label : Over (fun c => isLetterOrDigit c = true ∨ c = '-') Grammar.label := by
  have ends : Over (fun c => isLetterOrDigit c = true ∨ c = '-') (one isLetterOrDigit) :=
    Over.one fun c fits => Or.inl fits
  refine ends.add ((ends.mul (Over.one fun c either => ?_).star).mul ends)
  simpa using either

theorem isLabel_iff : isLabel text = true ↔ text ∈ Grammar.label := by
  simp only [isLabel, Bool.and_eq_true, List.all_eq_true, Option.any_eq_true]
  constructor
  · rintro ⟨⟨all, c, first, begins⟩, d, last, ends⟩
    obtain ⟨rest, rfl⟩ := List.head?_eq_some_iff.mp first
    rcases List.eq_nil_or_concat rest with rfl | ⟨middle, e, rfl⟩
    · exact Or.inl ⟨c, begins, rfl⟩
    · have same : e = d := by simpa [List.getLast?_cons] using last
      subst same
      have within : middle ∈ (one fun c => isLetterOrDigit c || c == '-')∗ :=
        mem_star_one_iff.mpr fun other inside =>
          all other (List.mem_cons_of_mem _ (by simp [inside]))
      have front : c :: middle ∈
          one isLetterOrDigit * (one fun c => isLetterOrDigit c || c == '-')∗ :=
        Language.append_mem_mul (singleton_mem_one begins) within
      have whole := Language.append_mem_mul front (singleton_mem_one ends)
      rw [List.concat_eq_append]
      exact Or.inr whole
  · rintro (⟨c, fits, rfl⟩ | whole)
    · exact ⟨⟨by simp [fits], c, rfl, fits⟩, c, rfl, fits⟩
    · obtain ⟨_, ⟨_, ⟨c, begins, rfl⟩, middle, within, rfl⟩, _, ⟨d, ends, rfl⟩, rfl⟩ := whole
      have inside := mem_star_one_iff.mp within
      refine ⟨⟨fun other member => ?_, c, rfl, begins⟩, d, List.getLast?_concat, ends⟩
      simp only [List.mem_append, List.mem_singleton] at member
      rcases member with (rfl | here) | rfl
      · rw [begins, Bool.true_or]
      · exact inside other here
      · rw [ends, Bool.true_or]

/-- Labels with points between them. -/
def Grammar.labels : Language Char := label * (mark '.' * label)∗

theorem all_isLabel_iff : (pieces '.' text).all isLabel = true ↔ text ∈ Grammar.labels := by
  rw [List.all_eq_true, Grammar.labels,
    mem_separated_iff fun part member => over_label.not_mem member (by decide)]
  simp only [isLabel_iff]

theorem over_labels :
    Over (fun c => (isLetterOrDigit c = true ∨ c = '-') ∨ c = '.') Grammar.labels := by
  have each : Over (fun c => (isLetterOrDigit c = true ∨ c = '-') ∨ c = '.') Grammar.label :=
    over_label.mono fun _ fits => Or.inl fits
  exact each.mul ((Over.mark (Or.inr rfl)).mul each).star

theorem isHost_iff : isHost text = true ↔ text ∈ Grammar.host := by
  have noColon {labels : List Char} (member : labels ∈ Grammar.labels) : ':' ∉ labels :=
    over_labels.not_mem member (by decide)
  rw [Grammar.host, maybe_many]
  change _ ↔ text ∈ Grammar.labels * _
  unfold isHost
  constructor
  · intro accepted
    cases cut : cutFirst? ':' text with
    | none =>
        rw [cut] at accepted
        rw [← List.append_nil text]
        exact Language.append_mem_mul (all_isLabel_iff.mp accepted) (mem_maybe_iff.mpr (Or.inl rfl))
    | some parts =>
        obtain ⟨labels, port⟩ := parts
        obtain ⟨rfl, -⟩ := cutFirst?_eq_some_iff.mp cut
        simp only [cut, Bool.and_eq_true, Bool.not_eq_true', List.isEmpty_eq_false_iff,
          List.all_eq_true] at accepted
        obtain ⟨⟨named, present⟩, digits⟩ := accepted
        have numbered : ':' :: port ∈ mark ':' * many (one Char.isDigit) :=
          Language.append_mem_mul (singleton_mem_mark ':')
            (mem_many_one_iff.mpr ⟨present, digits⟩)
        exact Language.append_mem_mul (all_isLabel_iff.mp (List.all_eq_true.mpr named))
          (mem_maybe_iff.mpr (Or.inr numbered))
  · intro member
    obtain ⟨labels, named, last, either, rfl⟩ := Language.mem_mul.mp member
    rcases mem_maybe_iff.mp either with rfl | numbered
    · rw [List.append_nil, cutFirst?_eq_none_iff.mpr (noColon named)]
      exact all_isLabel_iff.mpr named
    · obtain ⟨_, colon, port, digits, rfl⟩ := Language.mem_mul.mp numbered
      obtain rfl := mem_mark_iff.mp colon
      have cut : cutFirst? ':' (labels ++ ([':'] ++ port)) = some (labels, port) :=
        cutFirst?_eq_some_iff.mpr ⟨rfl, noColon named⟩
      obtain ⟨present, all⟩ := mem_many_one_iff.mp digits
      simp only [cut, all_isLabel_iff.mpr named, Bool.true_and, Bool.and_eq_true,
        Bool.not_eq_true', List.isEmpty_eq_false_iff, List.all_eq_true]
      exact ⟨present, all⟩

/-! ## Names -/

/-- Components with slashes between them. -/
def Grammar.path : Language Char := component * (mark '/' * component)∗

theorem mem_path_iff :
    text ∈ Grammar.path ↔ ∀ piece ∈ pieces '/' text, isComponent piece = true := by
  rw [Grammar.path, mem_separated_iff fun part member => over_component.not_mem member (by decide)]
  simp only [isComponent_iff]

theorem mem_path_iff_of_not_mem (absent : '/' ∉ text) :
    text ∈ Grammar.path ↔ isComponent text = true := by
  rw [mem_path_iff, pieces_of_not_mem absent, List.forall_mem_singleton]

theorem append_mem_path_iff {first : List Char} (absent : '/' ∉ first) :
    first ++ '/' :: rest ∈ Grammar.path ↔
      isComponent first = true ∧ ∀ piece ∈ pieces '/' rest, isComponent piece = true := by
  rw [mem_path_iff, pieces_append, pieces_of_not_mem absent, List.singleton_append,
    List.forall_mem_cons]

theorem over_host : Over (fun c => ((isLetterOrDigit c = true ∨ c = '-') ∨ c = '.') ∨ c = ':')
    Grammar.host := by
  have named : Over (fun c => ((isLetterOrDigit c = true ∨ c = '-') ∨ c = '.') ∨ c = ':')
      Grammar.labels := over_labels.mono fun _ fits => Or.inl fits
  have numbered : Over (fun c => ((isLetterOrDigit c = true ∨ c = '-') ∨ c = '.') ∨ c = ':')
      (maybe (mark ':' * many (one Char.isDigit))) := by
    refine ((Over.mark (Or.inr rfl)).mul (Over.one fun c digit => ?_).many).maybe
    have letterOrDigit : isLetterOrDigit c = true := by
      rw [isLetterOrDigit, Char.isAlphanum, digit, Bool.or_true]
    exact Or.inl (Or.inl (Or.inl letterOrDigit))
  rw [Grammar.host, maybe_many]
  exact named.mul numbered

theorem isName_of_not_mem (absent : '/' ∉ text) : isName text = isComponent text := by
  rw [isName, pieces_of_not_mem absent]
  simp

/-- The part of a name before its first slash is a component or a host, and the others are
components. -/
theorem isName_append {first : List Char} (absent : '/' ∉ first) (rest : List Char) :
    isName (first ++ '/' :: rest) = true ↔
      (isComponent first = true ∨ isHost first = true) ∧
        ∀ piece ∈ pieces '/' rest, isComponent piece = true := by
  rw [isName, pieces_append, pieces_of_not_mem absent, List.singleton_append]
  simp only [Bool.and_eq_true, Bool.or_eq_true, List.all_eq_true, Bool.not_eq_true',
    List.isEmpty_eq_false_iff, ne_eq, pieces_ne_nil, not_false_eq_true, true_and]
  exact and_comm

/-- A name is a path, or a host and a path behind it. -/
theorem mem_name_iff : text ∈ Grammar.name ↔ text ∈ Grammar.path ∨
    ∃ host ∈ Grammar.host, ∃ path ∈ Grammar.path, text = host ++ '/' :: path := by
  rw [Grammar.name, maybe_many, mul_assoc, ← Grammar.path, maybe, one_add_mul, Language.mem_add,
    mul_assoc]
  refine or_congr_right ?_
  constructor
  · rintro ⟨host, hosted, _, ⟨_, slash, path, inside, rfl⟩, rfl⟩
    obtain rfl := mem_mark_iff.mp slash
    exact ⟨host, hosted, path, inside, rfl⟩
  · rintro ⟨host, hosted, path, inside, rfl⟩
    exact ⟨host, hosted, '/' :: path, ⟨['/'], singleton_mem_mark '/', path, inside, rfl⟩, rfl⟩

/-- **Names.** -/
theorem isName_iff : isName text = true ↔ text ∈ Grammar.name := by
  rw [mem_name_iff]
  constructor
  · intro accepted
    cases cut : cutFirst? '/' text with
    | none =>
        have absent := cutFirst?_eq_none_iff.mp cut
        rw [isName_of_not_mem absent] at accepted
        exact Or.inl ((mem_path_iff_of_not_mem absent).mpr accepted)
    | some parts =>
        obtain ⟨first, rest⟩ := parts
        obtain ⟨rfl, absent⟩ := cutFirst?_eq_some_iff.mp cut
        obtain ⟨begins | hosted, all⟩ := (isName_append absent rest).mp accepted
        · exact Or.inl ((append_mem_path_iff absent).mpr ⟨begins, all⟩)
        · exact Or.inr ⟨first, isHost_iff.mp hosted, rest, mem_path_iff.mpr all, rfl⟩
  · rintro (path | ⟨host, hosted, path, inside, rfl⟩)
    · cases cut : cutFirst? '/' text with
      | none =>
          have absent := cutFirst?_eq_none_iff.mp cut
          rw [isName_of_not_mem absent]
          exact (mem_path_iff_of_not_mem absent).mp path
      | some parts =>
          obtain ⟨first, rest⟩ := parts
          obtain ⟨rfl, absent⟩ := cutFirst?_eq_some_iff.mp cut
          obtain ⟨begins, all⟩ := (append_mem_path_iff absent).mp path
          exact (isName_append absent rest).mpr ⟨Or.inl begins, all⟩
    · have absent : '/' ∉ host := over_host.not_mem hosted (by decide)
      exact (isName_append absent path).mpr
        ⟨Or.inr (isHost_iff.mpr hosted), mem_path_iff.mp inside⟩

/-! ## Tags and digests -/

/-- **Tags.** -/
theorem isTag_iff : isTag text = true ↔ text ∈ Grammar.tag := by
  rw [Grammar.tag, Language.mem_mul]
  constructor
  · intro accepted
    cases text with
    | nil => cases accepted
    | cons c rest =>
        simp only [isTag, Bool.and_eq_true, List.all_eq_true, decide_eq_true_eq] at accepted
        obtain ⟨⟨begins, short⟩, all⟩ := accepted
        exact ⟨[c], ⟨c, begins, rfl⟩, rest, mem_times_one_iff.mpr ⟨short, all⟩, rfl⟩
  · rintro ⟨_, ⟨c, begins, rfl⟩, rest, further, rfl⟩
    obtain ⟨short, all⟩ := mem_times_one_iff.mp further
    simp only [List.singleton_append, isTag, Bool.and_eq_true, List.all_eq_true,
      decide_eq_true_eq]
    exact ⟨⟨begins, short⟩, all⟩

/-- What completes an algorithm, at the start of a word and inside a word. -/
def Grammar.algorithmAfter (fresh : Bool) : Language Char :=
  (if fresh then word else (one isLetterOrDigit)∗) *
    (one (['-', '_', '+', '.'].contains ·) * word)∗

/-- Letters and digits inside a word change nothing. -/
theorem isAlgorithmAfter_run {run : List Char} (member : run ∈ (one isLetterOrDigit)∗)
    (rest : List Char) : isAlgorithmAfter false (run ++ rest) = isAlgorithmAfter false rest := by
  have all := mem_star_one_iff.mp member
  clear member
  induction run with
  | nil => rfl
  | cons c run ih =>
      rw [List.cons_append, isAlgorithmAfter, if_neg Bool.false_ne_true,
        if_pos (all c List.mem_cons_self)]
      exact ih fun d inside => all d (List.mem_cons_of_mem _ inside)

theorem isAlgorithmAfter_word {word : List Char} (member : word ∈ Grammar.word)
    (rest : List Char) : isAlgorithmAfter true (word ++ rest) = isAlgorithmAfter false rest := by
  obtain ⟨_, ⟨c, begins, rfl⟩, run, further, rfl⟩ := Language.mem_mul.mp member
  rw [List.append_assoc, List.singleton_append, isAlgorithmAfter, if_pos rfl, begins,
    Bool.true_and, isAlgorithmAfter_run further]

theorem mem_algorithmAfter {fresh : Bool} (accepted : isAlgorithmAfter fresh text = true) :
    text ∈ Grammar.algorithmAfter fresh := by
  induction text generalizing fresh with
  | nil =>
      cases fresh with
      | true => cases accepted
      | false => exact Language.append_mem_mul (nil_mem_star _) (nil_mem_star _)
  | cons c text ih =>
      rw [isAlgorithmAfter] at accepted
      cases fresh with
      | true =>
          rw [if_pos rfl, Bool.and_eq_true] at accepted
          obtain ⟨begins, further⟩ := accepted
          obtain ⟨run, inside, back, behind, rfl⟩ := Language.mem_mul.mp (ih further)
          have word : c :: run ∈ Grammar.word :=
            Language.append_mem_mul (singleton_mem_one begins) inside
          exact Language.append_mem_mul word behind
      | false =>
          rw [if_neg Bool.false_ne_true] at accepted
          split at accepted
          · next fits =>
            obtain ⟨run, inside, back, behind, rfl⟩ := Language.mem_mul.mp (ih accepted)
            have longer : c :: run ∈ (one isLetterOrDigit)∗ :=
              append_mem_star (singleton_mem_one fits) inside
            exact Language.append_mem_mul longer behind
          · rw [Bool.and_eq_true] at accepted
            obtain ⟨apart, further⟩ := accepted
            obtain ⟨word, inside, back, behind, rfl⟩ := Language.mem_mul.mp (ih further)
            have first : c :: word ∈ one (['-', '_', '+', '.'].contains ·) * Grammar.word :=
              Language.append_mem_mul (singleton_mem_one apart) inside
            exact Language.append_mem_mul (nil_mem_star _) (append_mem_star first behind)

theorem isAlgorithm_iff : isAlgorithmAfter true text = true ↔ text ∈ Grammar.algorithm := by
  refine ⟨mem_algorithmAfter, fun member => ?_⟩
  obtain ⟨word, first, tail, further, rfl⟩ := Language.mem_mul.mp member
  rw [isAlgorithmAfter_word first]
  refine star_induction further rfl ?_
  rintro _ back ⟨_, ⟨c, apart, rfl⟩, word, inside, rfl⟩ - accepted
  have separates : ['-', '_', '+', '.'].contains c = true := apart
  have noLetter : isLetterOrDigit c = false := by
    simp only [List.contains_iff_mem, List.mem_cons, List.not_mem_nil, or_false] at separates
    rcases separates with rfl | rfl | rfl | rfl <;> decide
  rw [List.append_assoc, List.singleton_append, isAlgorithmAfter, if_neg Bool.false_ne_true,
    noLetter, if_neg Bool.false_ne_true, separates, Bool.true_and, isAlgorithmAfter_word inside]
  exact accepted

/-- What an algorithm is made of. -/
theorem over_algorithm :
    Over (fun c => isLetterOrDigit c = true ∨ ['-', '_', '+', '.'].contains c = true)
      Grammar.algorithm := by
  have word : Over (fun c => isLetterOrDigit c = true ∨ ['-', '_', '+', '.'].contains c = true)
      Grammar.word := by
    refine (Over.one fun c letter => Or.inl ?_).mul (Over.one fun c fits => Or.inl fits).star
    rw [isLetterOrDigit, Char.isAlphanum, ← isLetter, letter, Bool.true_or]
  exact word.mul ((Over.one fun c fits => Or.inr fits).mul word).star

/-- **Digests.** -/
theorem isDigest_iff : isDigest text = true ↔ text ∈ Grammar.digest := by
  unfold isDigest
  constructor
  · intro accepted
    cases cut : cutFirst? ':' text with
    | none =>
        rw [cut] at accepted
        cases accepted
    | some parts =>
        obtain ⟨algorithm, digits⟩ := parts
        obtain ⟨rfl, -⟩ := cutFirst?_eq_some_iff.mp cut
        simp only [cut, Bool.and_eq_true, List.all_eq_true, decide_eq_true_eq] at accepted
        obtain ⟨⟨named, long⟩, all⟩ := accepted
        have front : algorithm ++ [':'] ∈ Grammar.algorithm * mark ':' :=
          Language.append_mem_mul (isAlgorithm_iff.mp named) (singleton_mem_mark ':')
        have regrouped : algorithm ++ ':' :: digits = (algorithm ++ [':']) ++ digits := by simp
        rw [regrouped]
        exact Language.append_mem_mul front (mem_times_one_iff.mpr ⟨long, all⟩)
  · intro member
    obtain ⟨front, marked, digits, fits, rfl⟩ := Language.mem_mul.mp member
    obtain ⟨algorithm, named, _, colon, rfl⟩ := Language.mem_mul.mp marked
    obtain rfl := mem_mark_iff.mp colon
    obtain ⟨long, all⟩ := mem_times_one_iff.mp fits
    have cut : cutFirst? ':' (algorithm ++ [':'] ++ digits) = some (algorithm, digits) :=
      cutFirst?_eq_some_iff.mpr ⟨by simp, over_algorithm.not_mem named (by decide)⟩
    simp only [cut, Bool.and_eq_true, List.all_eq_true, decide_eq_true_eq]
    exact ⟨⟨isAlgorithm_iff.mpr named, long⟩, all⟩

end BpfDepot.Client
