import BpfDepot.Proofs.Json.Record
import BpfDepot.Proofs.Json.Unambiguous

/-! # Whole numbers survive their documents

A number is written with its decimal digits and read digit by digit. The digits are
gathered to the number as long as it fits into 64 bits (`Json.Reader.gather_of_lt`), and
what may stand behind a value does not go on with it. So a whole number in the range of
its codec is kept (`Json.Codec.keeps_whole`): a natural number of 64 bits
(`Json.Codec.keeps_natural`), one of eight bits (`Json.Codec.keeps_byte`), and a whole number
of 64 bits (`Json.Codec.keeps_integer`).
-/

namespace BpfDepot.Json

/-! ## Digits -/

/-- Only the number zero is written with a zero in front. -/
theorem head_toDigits_ne_zero {m : Nat} (positive : 0 < m) {c : Char} {more : List Char}
    (written : Nat.toDigits 10 m = c :: more) : c ≠ '0' := by
  induction m using Nat.strongRecOn generalizing more with
  | ind m ih =>
      rw [Nat.toDigits_eq_if (by decide)] at written
      split at written
      · next small =>
        obtain rfl := (List.cons.inj written).1
        interval_cases m <;> decide
      · next large =>
        obtain ⟨d, front, first⟩ := List.exists_cons_of_ne_nil (Nat.toDigits_ne_nil (b := 10)
          (n := m / 10))
        rw [first] at written
        obtain rfl := (List.cons.inj written).1
        exact ih (m / 10) (by omega) (by omega) first

namespace Reader

/-- The byte of a digit is a digit with the same value. -/
theorem isDigit_code {c : Char} (digit : c.isDigit = true) :
    isDigit (code c) = true ∧ (code c).toNat = c.toNat ∧ c.toNat < 0x80 := by
  simp only [Char.isDigit, Bool.and_eq_true, decide_eq_true_eq, ge_iff_le] at digit
  have low : 48 ≤ c.toNat := digit.1
  have high : c.toNat ≤ 57 := digit.2
  have same : (code c).toNat = c.toNat := UInt8.toNat_ofNat_of_lt' (high.trans_lt (by decide))
  refine ⟨?_, same, by omega⟩
  simp only [isDigit, Bool.and_eq_true, decide_eq_true_eq, UInt8.le_iff_toNat_le, same]
  exact ⟨low, high⟩

theorem bytesOf_digits {cs : List Char} (all : ∀ c ∈ cs, c.isDigit) : bytesOf cs = cs.map code := by
  induction cs with
  | nil => rfl
  | cons c cs ih =>
      have digit := isDigit_code (all c List.mem_cons_self)
      rw [bytesOf_cons_of_lt digit.2.2, ih fun d member => all d (List.mem_cons_of_mem _ member),
        List.map_cons]

/-- Digits are taken up to the first byte that is none. -/
theorem digits_bytesOf {cs : List Char} (all : ∀ c ∈ cs, c.isDigit) {left : List UInt8}
    (stops : ∀ b, left.head? = some b → isDigit b = false) :
    digits (bytesOf cs ++ left) = (.ok (cs.map fun c => c.toNat - '0'.toNat), left) := by
  have every : ∀ b ∈ cs.map code, isDigit b = true := by
    intro b member
    obtain ⟨c, inside, rfl⟩ := List.mem_map.mp member
    exact (isDigit_code (all c inside)).1
  have run : (bytesOf cs ++ left).takeWhile isDigit = bytesOf cs ∧
      (bytesOf cs ++ left).dropWhile isDigit = left := by
    rw [bytesOf_digits all, List.takeWhile_append_of_pos every, List.dropWhile_append_of_pos every]
    cases left with
    | nil => simp
    | cons b left => simp [stops b rfl]
  have taken : digits (bytesOf cs ++ left) =
      (.ok (((bytesOf cs ++ left).takeWhile isDigit).map fun b => b.toNat - 48),
        (bytesOf cs ++ left).dropWhile isDigit) := rfl
  rw [taken, run.1, run.2, bytesOf_digits all, List.map_map]
  congr 2
  refine List.map_congr_left fun c member => ?_
  rw [Function.comp_apply, (isDigit_code (all c member)).2.1]
  rfl

/-- Digits are gathered to their number if it fits into 64 bits. -/
theorem gather_of_lt {ds : List Nat} {n : Nat}
    (fits : ds.foldl (fun m d => 10 * m + d) n < 2 ^ 64) :
    gather n ds = (ds.foldl (fun m d => 10 * m + d) n, ds.length) := by
  have grows (ds : List Nat) (n : Nat) : n ≤ ds.foldl (fun m d => 10 * m + d) n := by
    induction ds generalizing n with
    | nil => exact Nat.le_refl n
    | cons d ds ih => exact (by omega : n ≤ 10 * n + d).trans (ih _)
  induction ds generalizing n with
  | nil => rfl
  | cons d ds ih =>
      have small : 10 * n + d < Nat.pow 2 64 := (grows ds _).trans_lt fits
      rw [gather, if_pos small, ih fits]
      rfl

end Reader

/-! ## Numbers -/

namespace Codec

open Reader

/-- What stands behind a value does not go on with a number. -/
theorem Ends.noDigit {left : List UInt8} (ends : Ends left) (b : UInt8)
    (first : left.head? = some b) : isDigit b = false := by
  have marks : ∀ b : UInt8, isBlank b = true ∨ b = code ',' ∨ b = code ']' ∨ b = code '\x7d' →
      isDigit b = false := by
    intro b either
    simp only [isBlank, Bool.or_eq_true, decide_eq_true_eq] at either
    rcases either with (((rfl | rfl) | rfl) | rfl) | rfl | rfl | rfl <;> rfl
  exact marks b (ends b first)

theorem Ends.ne {left : List UInt8} (ends : Ends left) {b : UInt8} (part : isBlank b = false)
    (inner : b ≠ code ',' ∧ b ≠ code ']' ∧ b ≠ code '\x7d') : left.head? ≠ some b := by
  intro first
  rcases ends b first with blank | rfl | rfl | rfl
  · rw [part] at blank
    cases blank
  · exact inner.1 rfl
  · exact inner.2.1 rfl
  · exact inner.2.2 rfl

/-- A number does not go on with a fraction or an exponent behind its digits. -/
theorem Ends.whole {left : List UInt8} (ends : Ends left) : left.head? ≠ some (code '.') ∧
    left.head? ≠ some (code 'e') ∧ left.head? ≠ some (code 'E') :=
  ⟨ends.ne (by decide) (by decide), ends.ne (by decide) (by decide),
    ends.ne (by decide) (by decide)⟩

theorem next?_eq (left : List UInt8) : next? left = (.ok left.head?, left) := rfl

theorem numeral_zero {left : List UInt8} (ends : Ends left) :
    numeral false (code '0' :: left) = (.ok (.natural 0), left) := by
  obtain ⟨noPoint, noSmall, noGreat⟩ := ends.whole
  have noDigit : left.head?.any isDigit = false := by
    cases first : left.head? with
    | none => rfl
    | some b => exact ends.noDigit b first
  unfold numeral
  rw [bind_of_ok (take?_cons _ _)]
  dsimp only
  rw [if_pos rfl, bind_of_ok (next?_eq left), noDigit]
  simp only [Bool.false_eq_true, ↓reduceIte]
  rw [bind_of_ok (next?_eq left)]
  simp only [noPoint, noSmall, noGreat, decide_false, Bool.or_self, Bool.false_eq_true,
    ↓reduceIte, ne_eq, not_true_eq_false, Bool.not_false]
  rfl

/-- Digits that do not begin with a zero are read as the number that they come to. -/
theorem numeral_cons (minus : Bool) {c : Char} {more : List Char} {m : Nat} {left : List UInt8}
    (ends : Ends left) (leads : c ≠ '0') (all : ∀ d ∈ c :: more, d.isDigit)
    (value : (more.map fun d => d.toNat - '0'.toNat).foldl (fun m d => 10 * m + d)
      ((code c).toNat - 48) = m)
    (fits : m < 2 ^ 64) (signed : minus = true → 1 ≤ m ∧ m ≤ 2 ^ 63) :
    numeral minus (code c :: (bytesOf more ++ left)) =
      (.ok (if minus then .negative m else .natural m), left) := by
  obtain ⟨noPoint, noSmall, noGreat⟩ := ends.whole
  obtain ⟨digitByte, same, -⟩ := isDigit_code (all c List.mem_cons_self)
  have other : code c ≠ code '0' := by
    intro equal
    refine leads (Char.toNat_inj.mp ?_)
    rw [← same, equal]
    rfl
  unfold numeral
  rw [bind_of_ok (take?_cons _ _)]
  dsimp only
  rw [if_neg other, if_pos digitByte,
    bind_of_ok (digits_bytesOf (fun d member => all d (List.mem_cons_of_mem _ member))
      ends.noDigit), gather_of_lt (by rwa [value]), value]
  dsimp only
  rw [bind_of_ok (next?_eq left), List.length_map, Nat.sub_self]
  simp only [noPoint, noSmall, noGreat, decide_false, Bool.or_self, Bool.false_eq_true,
    ↓reduceIte, ne_eq, not_true_eq_false]
  cases minus with
  | false => rfl
  | true =>
      have range : 1 ≤ m ∧ m ≤ Nat.pow 2 63 := signed rfl
      simp only [range, decide_true, Bool.and_self, Bool.not_true, Bool.false_eq_true, ↓reduceIte]
      rfl

/-- **Numerals.** The digits of a number of 64 bits are read as the number. -/
theorem numeral_toDigits (minus : Bool) {m : Nat} {left : List UInt8} (ends : Ends left)
    (fits : m < 2 ^ 64) (signed : minus = true → 1 ≤ m ∧ m ≤ 2 ^ 63) :
    numeral minus (bytesOf (Nat.toDigits 10 m) ++ left) =
      (.ok (if minus then .negative m else .natural m), left) := by
  rcases Nat.eq_zero_or_pos m with rfl | positive
  · obtain rfl : minus = false := Bool.eq_false_iff.mpr fun yes => by simpa using signed yes
    exact numeral_zero ends
  · obtain ⟨c, more, written, digit⟩ := head_toDigits m
    obtain ⟨-, same, small⟩ := isDigit_code digit
    have value : (more.map fun d => d.toNat - '0'.toNat).foldl (fun m d => 10 * m + d)
        ((code c).toNat - 48) = m := by
      have read := Nat.ofDigitChars_ten_toDigits (n := m)
      rw [written] at read
      rw [List.foldl_map, same, ← Nat.zero_add (c.toNat - 48)]
      exact read
    rw [written, bytesOf_cons_of_lt small, List.cons_append]
    exact numeral_cons minus ends (head_toDigits_ne_zero positive written)
      (written ▸ toDigits_isDigit m) value fits signed

/-- A byte that is a digit is none of the other bytes that a value is told by. -/
theorem part_of_isDigit {b : UInt8} (digit : isDigit b = true) :
    isBlank b = false ∧ b ≠ code 'n' ∧ b ≠ code ']' ∧ b ≠ code '-' := by
  refine ⟨Bool.eq_false_iff.mpr fun blank => ?_, ?_, ?_, ?_⟩
  · simp only [isBlank, Bool.or_eq_true, decide_eq_true_eq] at blank
    rcases blank with ((rfl | rfl) | rfl) | rfl <;> cases digit
  all_goals
    rintro rfl
    cases digit

/-- **Whole numbers.** A number in the range of a codec is kept if it does not need to be
read as a float. -/
theorem keeps_whole {low high n : Int} (name : String) (least : low ≤ n) (most : n ≤ high)
    (small : -(2 ^ 63) ≤ n) (great : n < 2 ^ 64) : (whole low high name).Keeps n := by
  have laid (layout : Layout) (level : Nat) :
      (((whole low high name).write n).laid layout level) = Json.digits n := by
    simp only [whole, Value.laid, Value.compact]
  rcases digits_eq n with ⟨m, rfl, written⟩ | ⟨m, rfl, written⟩
  · obtain ⟨c, more, first, digit⟩ := head_toDigits m
    obtain ⟨digitByte, -, below⟩ := isDigit_code digit
    obtain ⟨part, noNull, noEnd, noMinus⟩ := part_of_isDigit digitByte
    have bytes : bytesOf (Nat.toDigits 10 m) = code c :: bytesOf more := by
      rw [first, bytesOf_cons_of_lt below]
    constructor
    · intro layout level
      exact ⟨code c, bytesOf more, by rw [laid, written, bytes], part, noNull, noEnd⟩
    · intro layout level front left blank ends
      have read := numeral_toDigits false (m := m) ends (by omega) (by simp)
      rw [laid, written, bytes, List.cons_append]
      rw [bytes, List.cons_append] at read
      unfold whole
      dsimp only
      rw [bind_of_ok (firstByte_blanks blank part _), if_neg noMinus, if_pos digitByte,
        bind_of_ok read]
      apply placed_of_ok
      simp only [Bool.false_eq_true, ↓reduceIte, least, most, decide_true, Bool.and_self]
      rfl
  · have bytes : bytesOf ('-' :: Nat.toDigits 10 (m + 1)) =
        code '-' :: bytesOf (Nat.toDigits 10 (m + 1)) := bytesOf_cons_of_lt (by decide) _
    constructor
    · intro layout level
      exact ⟨code '-', _, by rw [laid, written, bytes], rfl, by decide, by decide⟩
    · intro layout level front left blank ends
      have read := numeral_toDigits true (m := m + 1) ends (by omega) (by omega)
      have back : -((m + 1 : Nat) : Int) = Int.negSucc m := rfl
      rw [laid, written, bytes, List.cons_append]
      unfold whole
      dsimp only
      rw [bind_of_ok (firstByte_blanks blank rfl _), if_pos rfl, bind_of_ok (drop_cons _ _),
        bind_of_ok read]
      apply placed_of_ok
      simp only [↓reduceIte, back, least, most, decide_true, Bool.and_self]
      rfl

/-- Natural numbers of 64 bits are kept. -/
theorem keeps_natural {n : Nat} (fits : n < 2 ^ 64) : natural.Keeps n := by
  refine keeps_via (keeps_whole "u64" (Int.natCast_nonneg n) ?_ (by omega) (by omega))
    (Int.toNat_natCast n)
  change (n : Int) ≤ 2 ^ 64 - 1
  omega

/-- Natural numbers of eight bits are kept. -/
theorem keeps_byte {n : Nat} (fits : n < 2 ^ 8) : byte.Keeps n := by
  refine keeps_via (keeps_whole "u8" (Int.natCast_nonneg n) ?_ (by omega) (by omega))
    (Int.toNat_natCast n)
  change (n : Int) ≤ 2 ^ 8 - 1
  omega

/-- Whole numbers of 64 bits are kept. -/
theorem keeps_integer {n : Int} (least : -(2 ^ 63) ≤ n) (most : n < 2 ^ 63) : integer.Keeps n := by
  refine keeps_whole "i64" least ?_ least (by omega)
  change n ≤ 2 ^ 63 - 1
  omega

end Codec

end BpfDepot.Json
