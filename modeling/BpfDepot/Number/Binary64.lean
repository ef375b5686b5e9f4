import BpfDepot.Number.Rounding

/-! # Doubles

A double is a number with 53 significant binary digits and a bounded exponent.
Here the non-negative finite ones are pairs of natural and whole numbers, and
arithmetic on them is exact arithmetic followed by one rounding, to the nearest
double and to the even one of two that are equally near. A result past the
greatest double is `none`. -/

namespace BpfDepot.Number

/-- The number `significand * 2 ^ exponent`. -/
structure Binary64 where
  /-- The significant digits, below `2 ^ 53`. -/
  significand : Nat
  /-- The power of two that they are multiplied by. -/
  exponent : Int
  deriving DecidableEq, Repr

namespace Binary64

/-- The least exponent of a double. -/
def leastExponent : Int := -1074

/-- The double nothing. -/
def zero : Binary64 := ⟨0, leastExponent⟩

/-- Multiplies a quotient by a power of two. -/
def scale (num den : Nat) (power : Int) : Nat × Nat :=
  (num * Nat.pow 2 power.toNat, den * Nat.pow 2 (-power).toNat)

/-- The exponent of the double nearest to a quotient. -/
def exponentOf (num den : Nat) : Int :=
  let low := max ((num.log2 : Int) - den.log2 - 53) leastExponent
  let (scaled, unit) := scale num den (-low)
  if Nat.pow 2 53 ≤ scaled / unit then low + 1 else low

/-- The double nearest to a quotient, if it is not too great. -/
def ofRatio? (num den : Nat) : Option Binary64 :=
  if num = 0 then some zero
  else
    let exponent := exponentOf num den
    let (scaled, unit) := scale num den (-exponent)
    let rounded := roundQuotient scaled unit
    let x : Binary64 :=
      if rounded = Nat.pow 2 53 then ⟨Nat.pow 2 52, exponent + 1⟩ else ⟨rounded, exponent⟩
    if Nat.pow 2 52 ≤ x.significand && 971 < x.exponent then none else some x

/-- A double as the quotient of two natural numbers. -/
def ratio (x : Binary64) : Nat × Nat := scale x.significand 1 x.exponent

/-- The double nearest to a product. -/
def mul? (x y : Binary64) : Option Binary64 :=
  let (a, b) := x.ratio
  let (c, d) := y.ratio
  ofRatio? (a * c) (b * d)

/-- The double nearest to a quotient of doubles. -/
def div? (x y : Binary64) : Option Binary64 :=
  let (a, b) := x.ratio
  let (c, d) := y.ratio
  ofRatio? (a * d) (b * c)

/-- The double nearest to a natural number. -/
def ofNat? (n : Nat) : Option Binary64 := ofRatio? n 1

/-- The double nearest to `digits * 10 ^ power`. A power so far out that every
digit is lost, or that every non-zero number is too great, is not computed. -/
def ofDecimal? (digits : Nat) (power : Int) : Option Binary64 :=
  if digits = 0 then some zero
  else if 400 < power then none
  else if power + (digits.log2 : Int) < -400 then some zero
  else if 0 ≤ power then ofRatio? (digits * Nat.pow 10 power.toNat) 1
  else ofRatio? digits (Nat.pow 10 (-power).toNat)

end Binary64

end BpfDepot.Number
