import BpfDepot.Instant.Text
import BpfDepot.Proofs.Json.Unambiguous

/-! # Instants survive their texts

A scan that reads a part of a text goes on behind the part
(`Instant.Scan.Reads`). Each part of an instant is read as it was written: a padded
number, a year of any size, a fraction with three, six or nine digits. So the text of an
instant of the calendar is read as the instant, a leap second included
(`Instant.parse_toText`).
-/

namespace BpfDepot.Instant

open Json (NoDigit noDigit_cons toDigits_isDigit)

/-- A point of the calendar and of the day. -/
structure Valid (t : Instant) : Prop where
  /-- The calendar has the date. -/
  date : Date.of? t.date.year t.date.month t.date.day = some t.date
  /-- The day has the hour. -/
  hour : t.hour < 24
  /-- The hour has the minute. -/
  minute : t.minute < 60
  /-- The minute has the second. -/
  second : t.second < 60
  /-- Only the last second of a minute may be a leap second. -/
  nano : t.nano < nanosPerSecond ∨ t.second = 59 ∧ t.nano < 2 * nanosPerSecond

/-! ## Numbers with zeros in front -/

theorem length_padded {width n : Nat} (positive : 0 < width) (fits : n < 10 ^ width) :
    (padded width n).length = width := by
  have short : (Nat.toDigits 10 n).length ≤ width :=
    (Nat.length_toDigits_le_iff (by decide) positive).mpr fits
  simp only [padded, List.length_append, List.length_replicate]
  omega

theorem isDigit_padded (width n : Nat) : ∀ c ∈ padded width n, c.isDigit := by
  intro c member
  rcases List.mem_append.mp member with zero | digit
  · rw [List.eq_of_mem_replicate zero]
    decide
  · exact toDigits_isDigit n c digit

theorem padded_ne_nil (width n : Nat) : padded width n ≠ [] :=
  List.append_ne_nil_of_right_ne_nil _ Nat.toDigits_ne_nil

/-- Zeros in front do not change the value of digits. -/
theorem value_padded (width n : Nat) : Scan.value (padded width n) = n := by
  have zeros (count : Nat) : Scan.value (List.replicate count '0') = 0 := by
    induction count with
    | zero => rfl
    | succ count ih => exact ih
  calc Scan.value (padded width n)
      = Nat.ofDigitChars 10 (Nat.toDigits 10 n)
          (Scan.value (List.replicate (width - (Nat.toDigits 10 n).length) '0')) :=
        List.foldl_append
    _ = n := by rw [zeros, Nat.ofDigitChars_ten_toDigits]

/-! ## Parts of a text -/

theorem isBlank_of_isDigit {c : Char} (digit : c.isDigit = true) : Text.isBlank c = false := by
  simp only [Char.isDigit, Bool.and_eq_true, decide_eq_true_eq, ge_iff_le] at digit
  have low : 48 ≤ c.toNat := digit.1
  have high : c.toNat ≤ 57 := digit.2
  simp only [Text.isBlank, Bool.or_eq_false_iff, Bool.and_eq_false_iff, decide_eq_false_iff_not,
    beq_eq_false_iff_ne]
  omega

namespace Scan

variable {α β : Type}

/-- A scan takes a value from the front of a text and leaves the rest. -/
def Reads (scan : Scan α) (text : List Char) (a : α) (rest : List Char) : Prop :=
  scan.run text = .ok (a, rest)

namespace Reads

variable {text middle rest : List Char} {a : α} {b : β}

theorem pure (a : α) (text : List Char) : Reads (Pure.pure a) text a text := rfl

/-- After a scan the next one goes on from the rest. -/
theorem bind {scan : Scan α} {next : α → Scan β} (first : Reads scan text a middle)
    (second : Reads (next a) middle b rest) : Reads (scan >>= next) text b rest := by
  have taken : scan text = .ok (a, middle) := first
  change (scan >>= next) text = _
  simp only [Bind.bind, StateT.bind, taken]
  exact second

theorem get (text : List Char) : Reads MonadState.get text text text := rfl

theorem set (text rest : List Char) : Reads (MonadStateOf.set rest) text PUnit.unit rest := rfl

theorem change (edit : List Char → List Char) (text : List Char) :
    Reads (modify edit) text PUnit.unit (edit text) := rfl

end Reads

/-- Blanks are skipped where there are none. -/
theorem reads_skipBlanks {c : Char} (part : Text.isBlank c = false) (rest : List Char) :
    Reads skipBlanks (c :: rest) () (c :: rest) := by
  have still : (c :: rest).dropWhile Text.isBlank = c :: rest :=
    List.dropWhile_cons_of_neg (by simp [part])
  change Except.ok ((), (c :: rest).dropWhile Text.isBlank) = _
  rw [still]

theorem reads_mark {c : Char} (part : Text.isBlank c = false) (rest : List Char) :
    Reads (mark c) (c :: rest) () rest := by
  refine (reads_skipBlanks part rest).bind ((Reads.get _).bind ?_)
  simp only [↓reduceIte]
  exact Reads.set _ _

theorem takeWhile_digits {digits after : List Char} (all : ∀ c ∈ digits, c.isDigit)
    (stops : NoDigit after) : (digits ++ after).takeWhile Char.isDigit = digits := by
  rw [List.takeWhile_append_of_pos all]
  cases after with
  | nil => simp
  | cons c after => rw [List.takeWhile_cons_of_neg (by simp [stops c rfl]), List.append_nil]

/-- Digits are taken as their value if the width cuts them off from what is behind them. -/
theorem reads_number (width : Option Nat) {digits : List Char} (after : List Char)
    (present : digits ≠ []) (all : ∀ c ∈ digits, c.isDigit) (small : value digits < 2 ^ 63)
    (cut : width.elim ((digits ++ after).takeWhile Char.isDigit)
      ((digits ++ after).takeWhile Char.isDigit).take = digits) :
    Reads (number width) (digits ++ after) (value digits) after := by
  refine (Reads.get _).bind ?_
  obtain ⟨c, more, rfl⟩ := List.exists_cons_of_ne_nil present
  have digit : c.isDigit = true := all c List.mem_cons_self
  have bounded : ¬ Nat.pow 2 63 ≤ value (c :: more) := Nat.not_le.mpr small
  have behind : (c :: more ++ after).drop (c :: more).length = after := List.drop_left
  rw [List.cons_append] at cut behind ⊢
  cases width with
  | none =>
      rw [Option.elim_none] at cut
      simp only [digit, Bool.not_true, Bool.false_eq_true, ↓reduceIte, cut, bounded, behind]
      exact Reads.pure _ _
  | some width =>
      rw [Option.elim_some] at cut
      simp only [digit, Bool.not_true, Bool.false_eq_true, ↓reduceIte, cut, bounded, behind]
      exact Reads.pure _ _

/-- As many digits as the width are taken, also where more digits follow. -/
theorem reads_number_padded {width n : Nat} (positive : 0 < width) (fits : n < 10 ^ width)
    (small : n < 2 ^ 63) (after : List Char) :
    Reads (number (some width)) (padded width n ++ after) n after := by
  have read := reads_number (some width) after (padded_ne_nil width n)
    (isDigit_padded width n) (by rwa [value_padded]) (by
      rw [Option.elim_some, List.takeWhile_append_of_pos (isDigit_padded width n),
        List.take_left' (length_padded positive fits)])
  rwa [value_padded] at read

/-- All digits are taken where the width leaves room for them. -/
theorem reads_number_whole {width : Nat} {room : Option Nat} {n : Nat} (small : n < 2 ^ 63)
    (wide : ∀ most, room = some most → (padded width n).length ≤ most) {after : List Char}
    (stops : NoDigit after) : Reads (number room) (padded width n ++ after) n after := by
  have read := reads_number room after (padded_ne_nil width n)
    (isDigit_padded width n) (by rwa [value_padded]) (by
      rw [takeWhile_digits (isDigit_padded width n) stops]
      cases room with
      | none => rfl
      | some most => exact List.take_of_length_le (wide most rfl))
  rwa [value_padded] at read

/-- Behind digits that were written no blank is skipped. -/
theorem reads_skipBlanks_padded (width n : Nat) (after : List Char) :
    Reads skipBlanks (padded width n ++ after) () (padded width n ++ after) := by
  obtain ⟨c, more, written⟩ := List.exists_cons_of_ne_nil (padded_ne_nil width n)
  have digit : c.isDigit = true := isDigit_padded width n c (written ▸ List.mem_cons_self)
  rw [written, List.cons_append]
  exact reads_skipBlanks (isBlank_of_isDigit digit) _

theorem reads_twoDigits {low high n : Nat} (least : low ≤ n) (most : n ≤ high)
    (fits : n < 10 ^ 2) (after : List Char) :
    Reads (twoDigits low high) (padded 2 n ++ after) n after := by
  refine (reads_skipBlanks_padded 2 n after).bind
    ((reads_number_padded (by decide) fits (by omega) after).bind ?_)
  simp only [least, most, decide_true, Bool.and_true, ↓reduceIte]
  exact Reads.pure _ _

/-- **Years.** A year is read as it was written, if no digit follows. -/
theorem reads_year {y : Int} (small : y.natAbs < 2 ^ 31) {after : List Char}
    (stops : NoDigit after) : Reads year (yearText y ++ after) y after := by
  have bounds : -(Nat.pow 2 31 : Int) ≤ y ∧ y < Nat.pow 2 31 := by
    change -(2 ^ 31 : Int) ≤ y ∧ y < 2 ^ 31
    omega
  have whole : Reads (number none) (padded 4 y.natAbs ++ after) y.natAbs after :=
    reads_number_whole (by omega) (by nofun) stops
  unfold yearText
  split
  · next plain =>
    simp only [Bool.and_eq_true, decide_eq_true_eq] at plain
    obtain ⟨c, more, written⟩ := List.exists_cons_of_ne_nil (padded_ne_nil 4 y.toNat)
    have digit : c.isDigit = true := isDigit_padded _ _ c (written ▸ List.mem_cons_self)
    have four : Reads (number (some 4)) (padded 4 y.toNat ++ after) y.toNat after :=
      reads_number_padded (by decide) (by omega) (by omega) after
    refine (reads_skipBlanks_padded 4 _ after).bind ((Reads.get _).bind ?_)
    rw [written, List.cons_append] at four ⊢
    dsimp only
    split
    · next same =>
      obtain rfl := (List.cons.inj same).1
      cases digit
    · next same =>
      obtain rfl := (List.cons.inj same).1
      cases digit
    · refine four.bind ((Reads.pure _ _).bind ?_)
      simp only [Int.toNat_of_nonneg plain.1, bounds, decide_true, Bool.and_true, ↓reduceIte]
      exact Reads.pure _ _
  · next signed =>
    simp only [Bool.and_eq_true, decide_eq_true_eq] at signed
    by_cases negative : y < 0
    · have back : -(y.natAbs : Int) = y := by omega
      rw [if_pos negative]
      refine (reads_skipBlanks (by decide) _).bind ((Reads.get _).bind
        ((Reads.set _ _).bind (whole.bind ((Reads.pure _ _).bind ?_))))
      simp only [back, bounds, decide_true, Bool.and_true, ↓reduceIte]
      exact Reads.pure _ _
    · have back : (y.natAbs : Int) = y := by omega
      rw [if_neg negative]
      refine (reads_skipBlanks (by decide) _).bind ((Reads.get _).bind
        ((Reads.set _ _).bind (whole.bind ((Reads.pure _ _).bind ?_))))
      simp only [back, bounds, decide_true, Bool.and_true, ↓reduceIte]
      exact Reads.pure _ _

/-- A fraction is read with as many digits as it was written with. -/
theorem reads_fraction_padded (width : Nat) {n : Nat} (positive : 0 < width) (short : width ≤ 9)
    (fits : n < 10 ^ width) {after : List Char} (stops : NoDigit after) :
    Reads fraction ('.' :: padded width n ++ after) (n * 10 ^ (9 - width)) after := by
  have length := length_padded positive fits
  have dropped : after.dropWhile Char.isDigit = after := by
    cases after with
    | nil => rfl
    | cons c after => exact List.dropWhile_cons_of_neg (by simp [stops c rfl])
  have small : n < 2 ^ 63 :=
    (fits.trans_le (Nat.pow_le_pow_right (by decide) short)).trans (by decide)
  refine (Reads.get _).bind ?_
  simp only [List.cons_append]
  refine (Reads.set _ _).bind ((reads_number_whole small ?_ stops).bind ?_)
  · rintro most ⟨⟩
    exact length.trans_le short
  · have rest : Reads (modify (List.dropWhile Char.isDigit)) after PUnit.unit after := by
      change Except.ok (PUnit.unit, after.dropWhile Char.isDigit) = _
      rw [dropped]
    refine rest.bind ?_
    rw [takeWhile_digits (isDigit_padded width n) stops, length, Nat.min_eq_right short]
    exact Reads.pure _ _

/-- **Fractions.** The fraction of a second is read as it was written. -/
theorem reads_fraction {nano : Nat} (fits : nano < nanosPerSecond) {after : List Char}
    (stops : NoDigit after) (whole : after.head? ≠ some '.') :
    Reads fraction (fractionText nano ++ after) nano after := by
  have bound : nano < 10 ^ 9 := fits
  unfold fractionText
  split
  · next none =>
    subst none
    refine (Reads.get _).bind ?_
    rw [List.nil_append]
    split
    · exact absurd rfl whole
    · exact Reads.pure _ _
  split
  · next thousandths =>
    have read := reads_fraction_padded 3 (n := nano / 1000000) (by decide) (by decide)
      (by omega) stops
    rwa [show nano / 1000000 * 10 ^ (9 - 3) = nano by omega] at read
  split
  · next millionths =>
    have read := reads_fraction_padded 6 (n := nano / 1000) (by decide) (by decide)
      (by omega) stops
    rwa [show nano / 1000 * 10 ^ (9 - 6) = nano by omega] at read
  · have read := reads_fraction_padded 9 (by decide) (by decide) bound stops
    rwa [show nano * 10 ^ (9 - 9) = nano by omega] at read

theorem reads_offset : Reads offset ['Z'] 0 [] := rfl

end Scan

variable {t : Instant}

/-- The calendar has a date in few years, and in a month and on a day of two digits. -/
theorem Valid.bounds (valid : t.Valid) : t.date.year.natAbs < 2 ^ 31 ∧
    (1 ≤ t.date.month ∧ t.date.month ≤ 12) ∧ 1 ≤ t.date.day ∧ t.date.day ≤ 31 := by
  have found := valid.date
  simp only [Date.of?, Option.ite_none_right_eq_some, Bool.and_eq_true,
    decide_eq_true_eq] at found
  obtain ⟨⟨⟨⟨⟨⟨first, last⟩, january⟩, december⟩, least⟩, inside⟩, -⟩ := found
  have most : daysInMonth t.date.year t.date.month ≤ 31 := by
    unfold daysInMonth
    split <;> (split <;> decide)
  unfold Date.firstYear at first
  unfold Date.lastYear at last
  exact ⟨by omega, ⟨january, december⟩, least, inside.trans most⟩

/-- The second and the fraction that are written tell the second and its nanoseconds. -/
theorem Valid.of_written (valid : t.Valid) {second nano : Nat}
    (written : (if nanosPerSecond ≤ t.nano then t.second + 1 else t.second) = second)
    (fraction : (if nanosPerSecond ≤ t.nano then t.nano - nanosPerSecond else t.nano) = nano) :
    second ≤ 60 ∧ nano < nanosPerSecond ∧ (if second = 60 then 59 else second) = t.second ∧
      (if second = 60 then nano + nanosPerSecond else nano) = t.nano := by
  have least := valid.second
  have allowed := valid.nano
  by_cases leap : nanosPerSecond ≤ t.nano
  · rw [if_pos leap] at written fraction
    obtain ⟨last, most⟩ := allowed.resolve_left (Nat.not_lt.mpr leap)
    obtain rfl : second = 60 := by omega
    rw [if_pos rfl, if_pos rfl]
    omega
  · rw [if_neg leap] at written fraction
    have other : second ≠ 60 := by omega
    rw [if_neg other, if_neg other]
    omega

/-- **Instants.** An instant of the calendar is read from its text as it is. -/
theorem parse_toText (valid : t.Valid) : parse t.toText = .ok t := by
  obtain ⟨year, month, day⟩ := valid.bounds
  have hour := valid.hour
  have minute := valid.minute
  have reads : Scan.Reads Scan.instant t.toText.toList t [] := by
    rw [toText, textWith, String.toList_ofList]
    simp only [List.append_assoc, List.cons_append]
    generalize written : (if nanosPerSecond ≤ t.nano then t.second + 1 else t.second) = second
    generalize fraction : (if nanosPerSecond ≤ t.nano then t.nano - nanosPerSecond else t.nano) =
      nano
    obtain ⟨most, small, back, undone⟩ := valid.of_written written fraction
    refine (Scan.reads_year year (noDigit_cons (by decide) _)).bind ?_
    refine (Scan.reads_mark (by decide) _).bind ?_
    refine (Scan.reads_twoDigits month.1 month.2 (by omega) _).bind ?_
    refine (Scan.reads_mark (by decide) _).bind ?_
    refine (Scan.reads_twoDigits day.1 day.2 (by omega) _).bind ?_
    refine (Scan.Reads.get _).bind ((Scan.Reads.set _ _).bind ?_)
    refine (Scan.reads_twoDigits (Nat.zero_le _) (Nat.le_of_lt_succ hour) (by omega) _).bind ?_
    refine (Scan.reads_mark (by decide) _).bind ?_
    refine (Scan.reads_twoDigits (Nat.zero_le _) (Nat.le_of_lt_succ minute) (by omega) _).bind ?_
    refine (Scan.reads_mark (by decide) _).bind ?_
    refine (Scan.reads_twoDigits (Nat.zero_le _) most (by omega) _).bind ?_
    refine (Scan.reads_fraction small (noDigit_cons (by decide) _) (by decide)).bind ?_
    refine Scan.reads_offset.bind ((Scan.Reads.change _ _).bind ((Scan.Reads.get _).bind ?_))
    rw [if_neg (by simp)]
    dsimp only
    rw [valid.date]
    change Scan.Reads (pure ⟨t.date, t.hour, t.minute, if second = 60 then 59 else second,
      if second = 60 then nano + nanosPerSecond else nano⟩) [] t []
    rw [back, undone]
    exact Scan.Reads.pure t []
  have ran : Scan.instant.run t.toText.toList = .ok (t, []) := reads
  rw [parse, ran]
  rfl

end BpfDepot.Instant
