import BpfDepot.Report
import BpfDepot.Proofs.Number
import BpfDepot.Proofs.Settings
import Mathlib.Tactic.FieldSimp
import Mathlib.Tactic.Linarith

/-! # The amounts that are shown

A reader takes what is shown of a number of bytes for an amount: a number with or without a
place, in a unit (`Report.amount?`). More bytes are never shown as a smaller amount, also where
the unit changes, and of a number that a double can hold the amount is right to half a place
(`Report.size_monotone_accurate`).
-/

namespace BpfDepot.Report

open Number

variable {n m t : Nat}

/-! ## Reading an amount -/

/-- An amount as it is shown. -/
structure Amount where
  /-- The number before the unit. -/
  number : ℚ
  /-- The bytes of the unit. -/
  unit : Nat

/-- The bytes that an amount comes to. -/
def Amount.bytes (a : Amount) : ℚ := a.number * a.unit

/-- The number that digits have. -/
def whole? (digits : List Char) : Option Nat :=
  if digits ≠ [] ∧ digits.all Char.isDigit then some (Settings.decimal digits) else none

/-- The number that digits with or without a point have. -/
def number? (text : List Char) : Option ℚ :=
  match Text.pieces '.' text with
  | [digits] => (whole? digits).map fun n => (n : ℚ)
  | [digits, places] => do
    return (← whole? digits) + (← whole? places) / 10 ^ places.length
  | _ => none

/-- The bytes of a unit by its name. -/
def unit? (name : List Char) : Option Nat :=
  if name = "B".toList then some 1
  else if name = "KB".toList then some kilobyte
  else if name = "MB".toList then some megabyte
  else none

/-- The amount that a text denotes: a number, a blank and the name of a unit. -/
def amount? (text : String) : Option Amount :=
  match Text.pieces ' ' text.toList with
  | [number, name] => do return { number := ← number? number, unit := ← unit? name }
  | _ => none

/-! ## What is shown is read back -/

theorem mem_toDigits_ne {c : Char} (other : c.isDigit = false) (n : Nat) :
    c ∉ Nat.toDigits 10 n := by
  intro member
  have digit := Nat.isDigit_of_mem_toDigits (by decide) (by decide) member
  rw [other] at digit
  cases digit

theorem whole?_toDigits (n : Nat) : whole? (Nat.toDigits 10 n) = some n := by
  have all : (Nat.toDigits 10 n).all Char.isDigit = true :=
    List.all_eq_true.mpr fun c member =>
      Nat.isDigit_of_mem_toDigits (by decide) (by decide) member
  have value : Settings.decimal (Nat.toDigits 10 n) = n := by
    have read := Settings.foldl_digits (Nat.toDigits 10 n) 0
    rw [Nat.mul_zero, Nat.zero_add] at read
    exact read.symm.trans Nat.ofDigitChars_ten_toDigits
  rw [whole?, if_pos ⟨Nat.toDigits_ne_nil, all⟩, value]

theorem number?_toDigits (n : Nat) : number? (Nat.toDigits 10 n) = some (n : ℚ) := by
  rw [number?, Text.pieces_of_not_mem (mem_toDigits_ne rfl n)]
  dsimp only
  rw [whole?_toDigits]
  rfl

theorem toList_onePlace (tenths : Nat) : (onePlace tenths).toList =
    Nat.toDigits 10 (tenths / 10) ++ '.' :: Nat.toDigits 10 (tenths % 10) := by
  simp [onePlace]

/-- A number of tenths is read with its place. -/
theorem number?_onePlace (tenths : Nat) :
    number? (onePlace tenths).toList = some ((tenths : ℚ) / 10) := by
  have place : (Nat.toDigits 10 (tenths % 10)).length = 1 := by
    rw [Nat.toDigits_of_lt_base (Nat.mod_lt _ (by decide))]
    rfl
  have parts : ((tenths / 10 : Nat) : ℚ) + ((tenths % 10 : Nat) : ℚ) / 10 ^ 1 = tenths / 10 := by
    have split : ((10 * (tenths / 10) + tenths % 10 : Nat) : ℚ) = tenths :=
      congrArg _ (Nat.div_add_mod tenths 10)
    rw [← split]
    push_cast
    ring
  rw [number?, toList_onePlace, Text.pieces_append,
    Text.pieces_of_not_mem (mem_toDigits_ne rfl _), Text.pieces_of_not_mem (mem_toDigits_ne rfl _)]
  dsimp only [List.singleton_append]
  rw [whole?_toDigits, whole?_toDigits, place]
  exact congrArg some parts

/-- The amount that is shown for a number of bytes. -/
def shown (bytes : Nat) : Amount :=
  if megabyte ≤ bytes then ⟨(tenths megabyte bytes : ℚ) / 10, megabyte⟩
  else if kilobyte ≤ bytes then ⟨(tenths kilobyte bytes : ℚ) / 10, kilobyte⟩
  else ⟨bytes, 1⟩

/-- A number before a blank and the name of a unit denotes its amount. -/
theorem amount?_append {number : String} (name : String) {x : ℚ} {unit : Nat}
    (read : number? number.toList = some x) (known : unit? name.toList = some unit)
    (single : ' ' ∉ number.toList) (alone : ' ' ∉ name.toList) :
    amount? (number ++ (" " ++ name)) = some ⟨x, unit⟩ := by
  have text : (number ++ (" " ++ name)).toList = number.toList ++ ' ' :: name.toList := by
    rw [String.toList_append, String.toList_append]
    rfl
  rw [amount?, text, Text.pieces_append, Text.pieces_of_not_mem single,
    Text.pieces_of_not_mem alone]
  dsimp only [List.singleton_append]
  rw [read, known]
  rfl

/-- **Reading.** What is shown denotes its amount. -/
theorem amount?_size (bytes : Nat) : amount? (size bytes) = some (shown bytes) := by
  have unbroken (tenths : Nat) : ' ' ∉ (onePlace tenths).toList := by
    rw [toList_onePlace, List.mem_append, List.mem_cons]
    simp [mem_toDigits_ne]
  have text : (toString bytes).toList = Nat.toDigits 10 bytes := by simp
  unfold size shown
  split
  · exact amount?_append "MB" (number?_onePlace _) (by decide) (unbroken _) (by decide)
  split
  · exact amount?_append "KB" (number?_onePlace _) (by decide) (unbroken _) (by decide)
  · refine amount?_append "B" ?_ (by decide) ?_ (by decide)
    · rw [text, number?_toDigits]
    · rw [text]
      exact mem_toDigits_ne rfl _

/-! ## How great the amount is -/

/-- Tenths of a unit are those of the double. -/
theorem tenths_eq (unit : Nat) (small : n.log2 ≤ 1022) :
    tenths unit n = roundQuotient (10 * nearest n) unit := by
  obtain ⟨x, den, double, positive, ratio⟩ := Binary64.ratio_ofNat? small
  have common : 10 * (nearest n * den) = den * (10 * nearest n) := by ring
  unfold tenths
  rw [double, Option.map_some, ratio]
  dsimp only [Option.getD_some]
  rw [common, roundQuotient_mul_left _ positive]

theorem tenths_mono (unit : Nat) (le : n ≤ m) (small : m.log2 ≤ 1022) :
    tenths unit n ≤ tenths unit m := by
  rw [tenths_eq unit small, tenths_eq unit ((log2_mono le).trans small)]
  exact roundQuotient_mono (Nat.mul_le_mul_left 10 (nearest_mono le)) unit

/-- What is at least a unit is shown as at least the unit. -/
theorem le_tenths_mul {unit : Nat} (positive : 0 < unit) (few : unit < 2 ^ 53) (le : unit ≤ n)
    (small : n.log2 ≤ 1022) : unit * 10 ≤ tenths unit n * unit := by
  have most : unit ≤ nearest n := (nearest_of_lt few).ge.trans (nearest_mono le)
  rw [tenths_eq unit small, Nat.mul_comm unit]
  exact Nat.mul_le_mul_right unit (le_roundQuotient positive (Nat.mul_le_mul_left 10 most))

/-- What is less than the larger unit is not shown as more than it in the smaller one. -/
theorem tenths_kilobyte_mul_le (less : n < megabyte) :
    tenths kilobyte n * kilobyte ≤ megabyte * 10 := by
  have few : n < 2 ^ 53 := less.trans (by decide)
  have digits : n.log2 ≤ 1022 := (log2_le_of_lt few).trans (by decide)
  have most : 10 * n ≤ 10240 * kilobyte := by
    rw [megabyte] at less
    omega
  rw [tenths_eq kilobyte digits, nearest_of_lt few]
  exact Nat.mul_le_mul_right kilobyte (roundQuotient_le (by decide) most)

/-- The tenths of a byte in the amount that is shown. -/
def tenfold (bytes : Nat) : Nat :=
  if megabyte ≤ bytes then tenths megabyte bytes * megabyte
  else if kilobyte ≤ bytes then tenths kilobyte bytes * kilobyte
  else bytes * 10

theorem bytes_shown (n : Nat) : (shown n).bytes = (tenfold n : ℚ) / 10 := by
  unfold Amount.bytes shown tenfold
  split_ifs <;> (push_cast; ring)

/-- **Order.** More bytes are shown as no smaller amount. -/
theorem tenfold_mono (le : n ≤ m) (small : m.log2 ≤ 1022) : tenfold n ≤ tenfold m := by
  have units : kilobyte ≤ megabyte := by decide
  unfold tenfold
  by_cases large : megabyte ≤ m
  · have least := le_tenths_mul (by decide) (by decide) large small
    rw [if_pos large]
    split_ifs
    · exact Nat.mul_le_mul_right megabyte (tenths_mono megabyte le small)
    · next less _ => exact (tenths_kilobyte_mul_le (Nat.lt_of_not_le less)).trans least
    · next less _ => omega
  · rw [if_neg large, if_neg fun more => large (more.trans le)]
    by_cases medium : kilobyte ≤ m
    · have least := le_tenths_mul (by decide) (by decide) medium small
      rw [if_pos medium]
      split_ifs
      · exact Nat.mul_le_mul_right kilobyte (tenths_mono kilobyte le small)
      · omega
    · rw [if_neg medium, if_neg fun more => medium (more.trans le)]
      exact Nat.mul_le_mul_right 10 le

/-- **Accuracy.** What is shown of a number that a double can hold is right to half a place. -/
theorem tenfold_near (few : n < 2 ^ 53) :
    2 * tenfold n ≤ 20 * n + (shown n).unit ∧ 20 * n ≤ 2 * tenfold n + (shown n).unit := by
  have digits : n.log2 ≤ 1022 := (log2_le_of_lt few).trans (by decide)
  have near {unit : Nat} (positive : 0 < unit) : 2 * (tenths unit n * unit) ≤ 20 * n + unit ∧
      20 * n ≤ 2 * (tenths unit n * unit) + unit := by
    obtain ⟨above, below⟩ := roundQuotient_near (10 * n) positive
    rw [tenths_eq unit digits, nearest_of_lt few]
    constructor
    · linarith
    · linarith
  unfold tenfold shown
  split_ifs
  · exact near (by decide)
  · exact near (by decide)
  · dsimp only
    omega

/-- **Amounts.** What is shown of more bytes denotes no smaller amount, for all numbers of 64 bits.
Of a number below `2 ^ 53` the amount differs by a twentieth of the unit at most. -/
theorem size_monotone_accurate :
    (∀ n m : UInt64, n ≤ m → ∃ a b, amount? (size n.toNat) = some a ∧
      amount? (size m.toNat) = some b ∧ a.bytes ≤ b.bytes) ∧
    ∀ n : UInt64, n.toNat < 2 ^ 53 → ∃ a, amount? (size n.toNat) = some a ∧
      |a.bytes - n.toNat| ≤ (a.unit : ℚ) / 20 := by
  constructor
  · intro n m le
    have digits : m.toNat.log2 ≤ 1022 := (log2_le_of_lt m.toNat_lt).trans (by decide)
    refine ⟨_, _, amount?_size _, amount?_size _, ?_⟩
    rw [bytes_shown, bytes_shown]
    have mono := tenfold_mono (UInt64.le_iff_toNat_le.mp le) digits
    have cast : ((tenfold n.toNat : Nat) : ℚ) ≤ tenfold m.toNat := Nat.cast_le.mpr mono
    linarith
  · intro n few
    obtain ⟨above, below⟩ := tenfold_near few
    refine ⟨_, amount?_size _, ?_⟩
    have most : 2 * (tenfold n.toNat : ℚ) ≤ 20 * n.toNat + (shown n.toNat).unit := by
      exact_mod_cast above
    have least : 20 * (n.toNat : ℚ) ≤ 2 * tenfold n.toNat + (shown n.toNat).unit := by
      exact_mod_cast below
    rw [bytes_shown, abs_le]
    constructor <;> linarith

/-- The greatest number that is shown in the smaller unit is shown as no more than the larger one,
and it differs by less than a twentieth of its unit. -/
theorem size_monotone_accurate_carried :
    (1048575 : UInt64) ≤ 1048576 ∧ (1048575 : UInt64).toNat < 2 ^ 53 ∧
    (∃ a b, amount? (size (1048575 : UInt64).toNat) = some a ∧
      amount? (size (1048576 : UInt64).toNat) = some b ∧ a.bytes ≤ b.bytes) ∧
    ∃ a, amount? (size (1048575 : UInt64).toNat) = some a ∧
      |a.bytes - (1048575 : UInt64).toNat| ≤ (a.unit : ℚ) / 20 :=
  ⟨by decide, by decide, size_monotone_accurate.1 _ _ (by decide),
    size_monotone_accurate.2 _ (by decide)⟩

-- rounding carries over to the next unit, and a half goes to the even place
example : size 1048575 = "1024.0 KB" ∧ size 1048576 = "1.0 MB" ∧ size 1280 = "1.2 KB" := by
  decide +kernel

end BpfDepot.Report
