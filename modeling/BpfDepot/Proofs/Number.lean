import BpfDepot.Number.Binary64
import Mathlib.Tactic.Ring

/-! # Doubles of natural numbers

Rounding a quotient keeps the order of quotients with one denominator
(`Number.roundQuotient_mono`). A natural number that is not too great has a double that is a
natural number too, and keeps its order (`Number.nearest_mono`); with 53 binary digits or fewer
the double is the number itself (`Number.nearest_of_lt`).
-/

namespace BpfDepot.Number

variable {a b c n m num den : Nat}

/-! ## Quotients -/

/-- A quotient is rounded to the natural number below it or to the next one. -/
theorem roundQuotient_bounds (num den : Nat) :
    num / den ≤ roundQuotient num den ∧ roundQuotient num den ≤ num / den + 1 := by
  unfold roundQuotient
  dsimp only
  split_ifs <;> omega

theorem roundQuotient_mul_left (num : Nat) (positive : 0 < c) :
    roundQuotient (c * num) (c * den) = roundQuotient num den := by
  have less {x y : Nat} : c * x < c * y ↔ x < y := Nat.mul_lt_mul_left positive
  unfold roundQuotient
  simp only [Nat.mul_div_mul_left _ _ positive, Nat.mul_mod_mul_left, Nat.mul_left_comm 2 c, less]

/-- **Rounding** keeps the order of quotients. -/
theorem roundQuotient_mono (le : a ≤ b) (den : Nat) :
    roundQuotient a den ≤ roundQuotient b den := by
  have floors : a / den ≤ b / den := Nat.div_le_div_right le
  rcases floors.lt_or_eq with less | same
  · have below := (roundQuotient_bounds a den).2
    have above := (roundQuotient_bounds b den).1
    omega
  · -- the floors are the same, and what is left over decides
    have first := Nat.div_add_mod a den
    have second := Nat.div_add_mod b den
    have rests : a % den ≤ b % den := by
      rw [same] at first
      omega
    unfold roundQuotient
    dsimp only
    rw [same]
    split_ifs <;> omega

theorem roundQuotient_mul_right (c : Nat) (positive : 0 < den) :
    roundQuotient (c * den) den = c := by
  unfold roundQuotient
  dsimp only
  rw [Nat.mul_div_cancel _ positive, Nat.mul_mod_left, if_pos (by omega)]

theorem roundQuotient_one (num : Nat) : roundQuotient num 1 = num := by
  have whole := roundQuotient_mul_right num Nat.one_pos
  rwa [Nat.mul_one] at whole

theorem roundQuotient_le (positive : 0 < den) (le : num ≤ c * den) : roundQuotient num den ≤ c :=
  (roundQuotient_mono le den).trans (roundQuotient_mul_right c positive).le

theorem le_roundQuotient (positive : 0 < den) (le : c * den ≤ num) : c ≤ roundQuotient num den :=
  (roundQuotient_mul_right c positive).ge.trans (roundQuotient_mono le den)

/-! ## The nearest double -/

/-- The distance between doubles as great as a natural number, or one if that is less. -/
def spacing (n : Nat) : Nat := 2 ^ (n.log2 - 52)

/-- The double that is nearest to a natural number. -/
def nearest (n : Nat) : Nat := roundQuotient n (spacing n) * spacing n

theorem spacing_pos (n : Nat) : 0 < spacing n := Nat.two_pow_pos _

theorem spacing_of_le (small : n.log2 ≤ 52) : spacing n = 1 := by
  rw [spacing, Nat.sub_eq_zero_of_le small, Nat.pow_zero]

theorem log2_mono (le : n ≤ m) : n.log2 ≤ m.log2 := by
  by_cases zero : n = 0
  · rw [zero]
    exact Nat.zero_le _
  · exact (Nat.le_log2 (by omega)).mpr ((Nat.log2_self_le zero).trans le)

theorem log2_le_of_lt {power : Nat} (small : n < 2 ^ (power + 1)) : n.log2 ≤ power := by
  by_cases zero : n = 0
  · rw [zero]
    exact Nat.zero_le _
  · exact Nat.le_of_lt_succ ((Nat.log2_lt zero).mpr small)

theorem nearest_of_log2_le (small : n.log2 ≤ 52) : nearest n = n := by
  rw [nearest, spacing_of_le small, roundQuotient_one, Nat.mul_one]

/-- **Exactness.** With 53 binary digits or fewer nothing is lost. -/
theorem nearest_of_lt (small : n < 2 ^ 53) : nearest n = n :=
  nearest_of_log2_le (log2_le_of_lt small)

/-- A power of two is a multiple of the spacing of what is at least as great. -/
theorem two_pow_eq_mul_spacing {power : Nat} (great : 52 < n.log2) (above : n.log2 ≤ power) :
    2 ^ power = 2 ^ (power - n.log2 + 52) * spacing n := by
  rw [spacing, ← Nat.pow_add]
  congr 1
  omega

/-- A double has as many binary digits as its number, or it is the next power of two. -/
theorem nearest_bounds (positive : n ≠ 0) :
    2 ^ n.log2 ≤ nearest n ∧ nearest n ≤ 2 ^ (n.log2 + 1) := by
  have low : 2 ^ n.log2 ≤ n := Nat.log2_self_le positive
  have high : n ≤ 2 ^ (n.log2 + 1) := Nat.lt_log2_self.le
  by_cases small : n.log2 ≤ 52
  · rw [nearest_of_log2_le small]
    exact ⟨low, high⟩
  · have great : 52 < n.log2 := by omega
    rw [two_pow_eq_mul_spacing great le_rfl] at low ⊢
    rw [two_pow_eq_mul_spacing great (Nat.le_succ _)] at high ⊢
    exact ⟨Nat.mul_le_mul_right _ (le_roundQuotient (spacing_pos n) low),
      Nat.mul_le_mul_right _ (roundQuotient_le (spacing_pos n) high)⟩

/-- **Order.** Doubles of natural numbers keep their order. -/
theorem nearest_mono (le : n ≤ m) : nearest n ≤ nearest m := by
  by_cases zero : n = 0
  · rw [zero]
    exact Nat.zero_le _
  rcases (log2_mono le).lt_or_eq with fewer | same
  · calc nearest n ≤ 2 ^ (n.log2 + 1) := (nearest_bounds zero).2
      _ ≤ 2 ^ m.log2 := Nat.pow_le_pow_right (by decide) fewer
      _ ≤ nearest m := (nearest_bounds (by omega)).1
  · have grid : spacing n = spacing m := by rw [spacing, spacing, same]
    rw [nearest, nearest, grid]
    exact Nat.mul_le_mul_right _ (roundQuotient_mono le _)

namespace Binary64

/-- Multiplying by a power of two puts a factor above or below. -/
theorem scale_eq (num den : Nat) (power : Int) :
    scale num den power = (num * 2 ^ power.toNat, den * 2 ^ (-power).toNat) := rfl

/-- The last binary digit of a double of a natural number stands 52 places behind the first one of
the number. -/
theorem exponentOf_one (positive : n ≠ 0) : exponentOf n 1 = (n.log2 : Int) - 52 := by
  have low : max ((n.log2 : Int) - (1 : Nat).log2 - 53) leastExponent = (n.log2 : Int) - 53 := by
    have one : (1 : Nat).log2 = 0 := rfl
    rw [one, leastExponent]
    omega
  have full : Nat.pow 2 53 ≤
      n * 2 ^ (-((n.log2 : Int) - 53)).toNat / (1 * 2 ^ (- -((n.log2 : Int) - 53)).toNat) := by
    rw [Nat.one_mul, Int.neg_neg, Nat.le_div_iff_mul_le (Nat.two_pow_pos _)]
    calc Nat.pow 2 53 * 2 ^ ((n.log2 : Int) - 53).toNat
        = 2 ^ (53 + ((n.log2 : Int) - 53).toNat) := (Nat.pow_add 2 _ _).symm
      _ = 2 ^ (n.log2 + (-((n.log2 : Int) - 53)).toNat) := by congr 1; omega
      _ = 2 ^ n.log2 * 2 ^ (-((n.log2 : Int) - 53)).toNat := Nat.pow_add 2 _ _
      _ ≤ n * 2 ^ (-((n.log2 : Int) - 53)).toNat :=
        Nat.mul_le_mul_right _ (Nat.log2_self_le positive)
  unfold exponentOf
  simp only [low, scale_eq]
  rw [if_pos full]
  omega

/-- The double of a natural number that has few binary digits is written with more of them. -/
theorem ofNat?_of_log2_le (positive : n ≠ 0) (small : n.log2 ≤ 52) :
    ofNat? n = some ⟨n * 2 ^ (52 - n.log2), (n.log2 : Int) - 52⟩ := by
  have up : (-((n.log2 : Int) - 52)).toNat = 52 - n.log2 := by omega
  have down : (- -((n.log2 : Int) - 52)).toNat = 0 := by omega
  have below : n * 2 ^ (52 - n.log2) < Nat.pow 2 53 := by
    calc n * 2 ^ (52 - n.log2) < 2 ^ (n.log2 + 1) * 2 ^ (52 - n.log2) :=
          Nat.mul_lt_mul_of_pos_right Nat.lt_log2_self (Nat.two_pow_pos _)
      _ = 2 ^ (n.log2 + 1 + (52 - n.log2)) := (Nat.pow_add 2 _ _).symm
      _ = Nat.pow 2 53 := by rw [show n.log2 + 1 + (52 - n.log2) = 53 by omega]; rfl
  unfold ofNat? ofRatio?
  rw [if_neg positive]
  simp only [exponentOf_one positive, scale_eq, up, down, Nat.pow_zero, Nat.mul_one,
    roundQuotient_one, if_neg below.ne]
  rw [if_neg]
  simp only [Bool.and_eq_true, decide_eq_true_eq, not_and]
  omega

/-- The double of a natural number that has many binary digits is a multiple of a power of two. -/
theorem ofNat?_of_lt_log2 (great : 52 < n.log2) (small : n.log2 ≤ 1022) :
    ofNat? n = some (if roundQuotient n (spacing n) = Nat.pow 2 53
      then ⟨Nat.pow 2 52, (n.log2 : Int) - 52 + 1⟩
      else ⟨roundQuotient n (spacing n), (n.log2 : Int) - 52⟩) := by
  have positive : n ≠ 0 := by
    rintro rfl
    exact nomatch great
  have up : (-((n.log2 : Int) - 52)).toNat = 0 := by omega
  have down : (- -((n.log2 : Int) - 52)).toNat = n.log2 - 52 := by omega
  unfold ofNat? ofRatio?
  rw [if_neg positive]
  simp only [exponentOf_one positive, scale_eq, up, down, Nat.pow_zero, Nat.mul_one, Nat.one_mul]
  rw [if_neg]
  · rfl
  · simp only [Bool.and_eq_true, decide_eq_true_eq, not_and]
    split <;> (dsimp only; omega)

/-- **Conversion.** The double of a natural number is the nearest one. -/
theorem ratio_ofNat? (small : n.log2 ≤ 1022) : ∃ x den, ofNat? n = some x ∧ 0 < den ∧
    x.ratio = (nearest n * den, den) := by
  by_cases zero : n = 0
  · subst zero
    refine ⟨Binary64.zero, 1 * 2 ^ (-leastExponent).toNat, rfl, ?_, ?_⟩
    · rw [Nat.one_mul]
      exact Nat.two_pow_pos _
    · rw [nearest_of_lt (by decide), ratio, scale_eq, Binary64.zero, Nat.zero_mul, Nat.zero_mul]
  by_cases few : n.log2 ≤ 52
  · refine ⟨_, 2 ^ (52 - n.log2), ofNat?_of_log2_le zero few, Nat.two_pow_pos _, ?_⟩
    have up : ((n.log2 : Int) - 52).toNat = 0 := by omega
    have down : (-((n.log2 : Int) - 52)).toNat = 52 - n.log2 := by omega
    rw [nearest_of_log2_le few, ratio, scale_eq, up, down, Nat.pow_zero, Nat.mul_one, Nat.one_mul]
  · have great : 52 < n.log2 := by omega
    refine ⟨_, 1, ofNat?_of_lt_log2 great small, Nat.one_pos, ?_⟩
    split
    · next full =>
      -- the digits are carried over to the next power of two
      have up : ((n.log2 : Int) - 52 + 1).toNat = n.log2 - 52 + 1 := by omega
      have down : (-((n.log2 : Int) - 52 + 1)).toNat = 0 := by omega
      rw [ratio, scale_eq, up, down, nearest, full, spacing]
      simp only [Nat.pow_eq, Prod.mk.injEq]
      omega
    · have up : ((n.log2 : Int) - 52).toNat = n.log2 - 52 := by omega
      have down : (-((n.log2 : Int) - 52)).toNat = 0 := by omega
      rw [ratio, scale_eq, up, down, nearest, Nat.mul_one, Nat.pow_zero]
      rfl

end Binary64

end BpfDepot.Number
