/-! # Rounding quotients

A quotient of natural numbers is rounded to the nearest natural number. Halfway
between two of them the even one is taken. -/

namespace BpfDepot.Number

/-- The natural number nearest to a quotient, the even one of two that are equally
near. -/
def roundQuotient (num den : Nat) : Nat :=
  let floor := num / den
  let rest := 2 * (num % den)
  if rest < den then floor
  else if den < rest then floor + 1
  else if floor % 2 = 0 then floor else floor + 1

/-- The result lies within half a unit of the quotient. -/
theorem roundQuotient_near (num : Nat) {den : Nat} (pos : 0 < den) :
    2 * num ≤ (2 * roundQuotient num den + 1) * den ∧
      2 * roundQuotient num den * den ≤ 2 * num + den := by
  have split := Nat.div_add_mod num den
  have small := Nat.mod_lt num pos
  simp only [roundQuotient]
  generalize num / den = q at *
  generalize num % den = r at *
  have e : (2 * q + 1) * den = 2 * (den * q) + den := by
    rw [Nat.add_mul, Nat.mul_assoc, Nat.mul_comm q den, Nat.one_mul]
  have e' : (2 * (q + 1) + 1) * den = 2 * (den * q) + 3 * den := by
    rw [Nat.mul_add, Nat.add_assoc, Nat.add_mul, Nat.mul_assoc, Nat.mul_comm q den]
  have f : 2 * q * den = 2 * (den * q) := by rw [Nat.mul_assoc, Nat.mul_comm q den]
  have f' : 2 * (q + 1) * den = 2 * (den * q) + 2 * den := by
    rw [Nat.mul_add, Nat.add_mul, Nat.mul_assoc, Nat.mul_comm q den]
  split
  · rw [e, f]; omega
  · split
    · rw [e', f']; omega
    · split
      · rw [e, f]; omega
      · rw [e', f']; omega

end BpfDepot.Number
