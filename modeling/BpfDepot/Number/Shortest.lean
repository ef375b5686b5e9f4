import BpfDepot.Number.Binary64

/-! # The fewest digits of a double

Many decimals round to the same double. The one that is written has the fewest
digits, and of those with as few digits it is the nearest to the double. The
decimals that round to a double lie between the middles to its two neighbours;
the search tries one digit, two digits and so on, and on each grid only the two
points next to the double. -/

namespace BpfDepot.Number

/-- The number `digits * 10 ^ power`. -/
structure Decimal where
  /-- The significant digits. -/
  digits : Nat
  /-- The power of ten that they are multiplied by. -/
  power : Int
  deriving DecidableEq, Repr

/-- Compares `a * 10 ^ i` with `b * 2 ^ j`. -/
def compareScaled (a : Nat) (i : Int) (b : Nat) (j : Int) : Ordering :=
  compare (a * Nat.pow 10 i.toNat * Nat.pow 2 (-j).toNat)
    (b * Nat.pow 2 j.toNat * Nat.pow 10 (-i).toNat)

namespace Binary64

/-- Whether a decimal rounds to a double: it lies between the middles to the
neighbours, or on one of them when the double is the even neighbour. Below a
power of two the lower neighbour is only half as far. -/
def readsBack (x : Binary64) (d : Decimal) : Bool :=
  let narrow := x.significand = Nat.pow 2 52 && leastExponent < x.exponent
  let low := 4 * x.significand - (if narrow then 1 else 2)
  let high := 4 * x.significand + 2
  let even := x.significand % 2 = 0
  let below := compareScaled d.digits d.power low (x.exponent - 2)
  let above := compareScaled d.digits d.power high (x.exponent - 2)
  (below == .gt || (even && below == .eq)) && (above == .lt || (even && above == .eq))

/-- The least power of ten above a double, searched from an estimate upwards. -/
def powerAbove (x : Binary64) : Int :=
  let bits := (x.significand.log2 : Int) + x.exponent
  let estimate := bits * 30103 / 100000 - 1
  let above (k : Int) := compareScaled 1 k x.significand x.exponent == .gt
  ((List.range 4).find? fun (i : Nat) => above (estimate + i)).elim (estimate + 4) fun i => estimate + i

/-- The decimal on a grid of powers of ten that is nearest to a double, if it or
its neighbour across the double rounds to it. -/
def onGrid? (x : Binary64) (grid : Int) : Option Decimal :=
  let (num, den) := scale x.significand 1 x.exponent
  let num := num * Nat.pow 10 (-grid).toNat
  let den := den * Nat.pow 10 grid.toNat
  let below : Decimal := ⟨num / den, grid⟩
  let above : Decimal := ⟨num / den + 1, grid⟩
  let nearer := if 2 * (num % den) ≤ den then below else above
  let farther := if 2 * (num % den) ≤ den then above else below
  if x.readsBack nearer then some nearer
  else if x.readsBack farther then some farther
  else none

/-- The decimal with the fewest digits that rounds to a double. -/
def shortest (x : Binary64) : Decimal :=
  if x.significand = 0 then ⟨0, 0⟩
  else
    let top := x.powerAbove
    ((List.range 17).findSome? fun (n : Nat) => x.onGrid? (top - (n + 1))).getD
      (if 0 ≤ x.exponent then ⟨x.significand * Nat.pow 2 x.exponent.toNat, 0⟩
       else ⟨x.significand * Nat.pow 5 (-x.exponent).toNat, x.exponent⟩)

end Binary64

/-! ## Layout -/

/-- How the digits of a decimal are laid out. A number is written positionally
while the power of ten of its first digit lies in a range, and otherwise as its
first digit, a point, the other digits and an exponent with its sign. -/
structure Layout where
  /-- The range of powers written positionally, if there is an end to it. -/
  positional : Option (Int × Int)
  /-- The least number of digits of an exponent. -/
  exponentDigits : Nat

namespace Layout

/-- Fills up a numeral with zeros in front. -/
def padded (width n : Nat) : String :=
  let digits := toString n
  String.ofList (List.replicate (width - digits.length) '0') ++ digits

/-- A decimal laid out, a whole number with one zero after the point. -/
def render (layout : Layout) (d : Decimal) : String :=
  let digits := (toString d.digits).toList
  let stripped :=
    if d.digits = 0 then ['0'] else (digits.reverse.dropWhile (· == '0')).reverse
  let first : Int := if d.digits = 0 then 0 else d.power + digits.length - 1
  let inside := match layout.positional with
    | some (low, high) => low ≤ first && first < high
    | none => true
  if inside then
    if first < 0 then
      String.ofList ("0.".toList ++ List.replicate (-first - 1).toNat '0' ++ stripped)
    else
      let whole := stripped.take (first.toNat + 1)
      let zeros := List.replicate (first.toNat + 1 - whole.length) '0'
      let fraction := stripped.drop (first.toNat + 1)
      String.ofList (whole ++ zeros ++ '.' :: (if fraction = [] then ['0'] else fraction))
  else
    let mantissa := match stripped with
      | [] => []
      | [c] => [c]
      | c :: others => c :: '.' :: others
    String.ofList mantissa ++ (if first < 0 then "e-" else "e+")
      ++ padded layout.exponentDigits first.natAbs

end Layout

end BpfDepot.Number
