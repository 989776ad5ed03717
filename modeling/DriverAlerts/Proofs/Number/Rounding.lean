import Mathlib.Algebra.Order.Field.Power
import Mathlib.Data.Rat.Cast.Order
import Mathlib.Tactic.FieldSimp
import Mathlib.Tactic.Linarith
import Mathlib.Tactic.NormNum
import Mathlib.Tactic.Positivity
import Mathlib.Tactic.Ring
/-!
# Rounding to the nearest double

A positive rational is rounded in two steps. Its binary digits are cut off at the last place that a
double of its size can have, and what is cut off is remembered as two bits: the first digit behind the
place, and whether anything but zeros follows it. From these the nearest multiple of the place is
found, the even one of two that are equally near. `StandsFor` says what the bits remember, and
`RoundsTo` what the place has to be.

Rounding never turns an order around. At one place that is seen from the bits. If two rationals have
different places, a power of two lies between them, and between what they are rounded to.
-/

namespace DriverAlerts.Number

open Float.Model Float.Model.UnpackedFloat

/-! ### What is cut off -/

/-- The rational of which a significand and two bits are left. -/
def StandsFor (cut : ExtendedMantissa) (x : Rat) : Prop :=
  match cut.roundBit, cut.stickyBit with
  | false, false => x = cut.mantissa
  | false, true => cut.mantissa < x ∧ x < cut.mantissa + 1 / 2
  | true, false => x = cut.mantissa + 1 / 2
  | true, true => cut.mantissa + 1 / 2 < x ∧ x < cut.mantissa + 1

namespace StandsFor

variable {cut cut' : ExtendedMantissa} {x x' : Rat}

theorem mantissa_le (h : StandsFor cut x) : cut.mantissa ≤ x := by
  obtain ⟨m, first, later⟩ := cut
  cases first <;> cases later <;> simp only [StandsFor] at h ⊢ <;> linarith

theorem lt_mantissa_add_one (h : StandsFor cut x) : x < cut.mantissa + 1 := by
  obtain ⟨m, first, later⟩ := cut
  cases first <;> cases later <;> simp only [StandsFor] at h ⊢ <;> linarith

/-- A natural number and a proper fraction, cut off between them. -/
theorem ofFraction (m : Nat) {num den : Nat} (hnum : num < den) :
    StandsFor (.ofMantissaAndAccuracy m (accuracyOfFraction num den)) (m + (num : Rat) / den) := by
  have hden : (0 : Rat) < den := by exact_mod_cast Nat.zero_lt_of_lt hnum
  rw [accuracyOfFraction]
  split_ifs with hzero
  · rw [hzero, Nat.cast_zero, zero_div, add_zero]
    rfl
  · have hpos : (0 : Rat) < num / den := div_pos (by exact_mod_cast Nat.pos_of_ne_zero hzero) hden
    have hone : (num : Rat) / den < 1 := (div_lt_one hden).mpr (by exact_mod_cast hnum)
    cases hhalf : compare (2 * num) den with
    | lt =>
        have hlt : (2 : Rat) * num < den := by exact_mod_cast Nat.compare_eq_lt.mp hhalf
        have : (num : Rat) / den < 1 / 2 := by rw [div_lt_iff₀ hden]; linarith
        change (m : Rat) < _ ∧ _ < (m : Rat) + 1 / 2
        constructor <;> linarith
    | eq =>
        have heq : (2 : Rat) * num = den := by exact_mod_cast Nat.compare_eq_eq.mp hhalf
        have : (num : Rat) / den = 1 / 2 := by rw [div_eq_iff hden.ne']; linarith
        rw [this]
        rfl
    | gt =>
        have hgt : (den : Rat) < 2 * num := by exact_mod_cast Nat.compare_eq_gt.mp hhalf
        have : 1 / 2 < (num : Rat) / den := by rw [lt_div_iff₀ hden]; linarith
        change (m : Rat) + 1 / 2 < _ ∧ _ < (m : Rat) + 1
        constructor <;> linarith

/-- A quotient of natural numbers, cut off at the unit. -/
theorem ofQuotient (a : Nat) {b : Nat} (hb : 0 < b) :
    StandsFor (.ofMantissaAndAccuracy (a / b) (accuracyOfFraction (a % b) b)) ((a : Rat) / b) := by
  have hb' : (b : Rat) ≠ 0 := by exact_mod_cast hb.ne'
  have hsplit : (a : Rat) / b = (a / b : Nat) + ((a % b : Nat) : Rat) / b := by
    rw [eq_comm, ← mul_div_cancel_right₀ ((a / b : Nat) : Rat) hb', ← add_div]
    congr 1
    exact_mod_cast Nat.div_add_mod' a b
  rw [hsplit]
  exact ofFraction (a / b) (Nat.mod_lt a hb)

/-- One digit more is cut off. -/
theorem shiftRightOne (h : StandsFor cut x) : StandsFor cut.shiftRightOne (x / 2) := by
  obtain ⟨m, first, later⟩ := cut
  have hsplit : (m : Rat) = 2 * (m / 2 : Nat) + (m % 2 : Nat) := by
    exact_mod_cast (Nat.div_add_mod m 2).symm
  rcases Nat.mod_two_eq_zero_or_one m with hm | hm <;> cases first <;> cases later <;>
    simp [StandsFor, ExtendedMantissa.shiftRightOne, hm] at h hsplit ⊢ <;>
    first | linarith | constructor <;> linarith

theorem shiftRight (h : StandsFor cut x) (places : Nat) :
    StandsFor (cut >>> places) (x / 2 ^ places) := by
  change StandsFor (places.repeat ExtendedMantissa.shiftRightOne cut) _
  induction places with
  | zero => rwa [pow_zero, div_one]
  | succ places ih =>
      rw [pow_succ, ← div_div]
      exact ih.shiftRightOne

/-! ### The nearest significand -/

theorem mantissa_le_roundedMantissa (cut : ExtendedMantissa) :
    cut.mantissa ≤ cut.roundedMantissa := by
  obtain ⟨m, first, later⟩ := cut
  cases first <;> cases later <;> simp [ExtendedMantissa.roundedMantissa,
    ExtendedMantissa.accuracy, Accuracy.roundToNearestEven]

theorem roundedMantissa_le (cut : ExtendedMantissa) :
    cut.roundedMantissa ≤ cut.mantissa + 1 := by
  obtain ⟨m, first, later⟩ := cut
  cases first <;> cases later <;> simp [ExtendedMantissa.roundedMantissa,
    ExtendedMantissa.accuracy, Accuracy.roundToNearestEven]
  omega

theorem roundedMantissa_mono (h : StandsFor cut x) (h' : StandsFor cut' x') (hle : x ≤ x') :
    cut.roundedMantissa ≤ cut'.roundedMantissa := by
  rcases lt_trichotomy cut.mantissa cut'.mantissa with hlt | heq | hgt
  · calc cut.roundedMantissa ≤ cut.mantissa + 1 := roundedMantissa_le cut
      _ ≤ cut'.mantissa := hlt
      _ ≤ cut'.roundedMantissa := mantissa_le_roundedMantissa cut'
  · obtain ⟨m, first, later⟩ := cut
    obtain ⟨m', first', later'⟩ := cut'
    obtain rfl : m = m' := heq
    -- Where the bits would round the smaller one up and the larger one down, the order is violated.
    cases first <;> cases later <;> cases first' <;> cases later' <;>
      simp only [StandsFor] at h h' <;>
      simp only [ExtendedMantissa.roundedMantissa, ExtendedMantissa.accuracy,
        Accuracy.roundToNearestEven] <;>
      first | omega | exfalso; linarith
  · have hlt : (cut'.mantissa : Rat) + 1 ≤ cut.mantissa := by exact_mod_cast hgt
    have := h.mantissa_le
    have := h'.lt_mantissa_add_one
    linarith

end StandsFor

/-! ### The place -/

/-- The place at which a positive rational is cut off: the lowest one that a double has, or else the one
that leaves fifty-three digits. -/
structure IsPlace (place : Int) (x : Rat) : Prop where
  lowest_le : -1074 ≤ place
  lt_pow : x < 2 ^ (place + 53)
  eq_lowest_or_pow_le : place = -1074 ∨ (2 : Rat) ^ (place + 52) ≤ x

/-- Rounds to a multiple of the place. -/
def RoundsTo (x z : Rat) : Prop :=
  ∃ place cut, IsPlace place x ∧ StandsFor cut (x / 2 ^ place) ∧
    z = cut.roundedMantissa * (2 : Rat) ^ place

theorem RoundsTo.nonneg {x z : Rat} (h : RoundsTo x z) : 0 ≤ z := by
  obtain ⟨place, cut, -, -, rfl⟩ := h
  positivity

theorem IsPlace.mantissa_lt {place : Int} {x : Rat} {cut : ExtendedMantissa} (h : IsPlace place x)
    (hcut : StandsFor cut (x / 2 ^ place)) : cut.mantissa < 2 ^ 53 := by
  have hlt : x / 2 ^ place < 2 ^ 53 := by
    rw [div_lt_iff₀ (by positivity), ← zpow_natCast, ← zpow_add₀ two_ne_zero, add_comm]
    exact h.lt_pow
  exact_mod_cast hcut.mantissa_le.trans_lt hlt

theorem IsPlace.eq_lowest_or_le_mantissa {place : Int} {x : Rat} {cut : ExtendedMantissa}
    (h : IsPlace place x) (hcut : StandsFor cut (x / 2 ^ place)) :
    place = -1074 ∨ 2 ^ 52 ≤ cut.mantissa := by
  refine h.eq_lowest_or_pow_le.imp_right fun hpow => ?_
  have hle : (2 : Rat) ^ 52 ≤ x / 2 ^ place := by
    rw [le_div_iff₀ (by positivity), ← zpow_natCast, ← zpow_add₀ two_ne_zero, add_comm]
    exact hpow
  have hlt : (2 : Rat) ^ 52 < cut.mantissa + 1 := hle.trans_lt hcut.lt_mantissa_add_one
  have hlt' : 2 ^ 52 < cut.mantissa + 1 := by exact_mod_cast hlt
  exact Nat.le_of_lt_succ hlt'

/-- Rounding does not turn an order around. -/
theorem RoundsTo.mono {x x' z z' : Rat} (h : RoundsTo x z) (h' : RoundsTo x' z') (hle : x ≤ x') :
    z ≤ z' := by
  obtain ⟨place, cut, hplace, hcut, rfl⟩ := h
  obtain ⟨place', cut', hplace', hcut', rfl⟩ := h'
  rcases lt_trichotomy place place' with hlt | rfl | hgt
  · have hup : cut.roundedMantissa ≤ 2 ^ 53 :=
      (StandsFor.roundedMantissa_le cut).trans (hplace.mantissa_lt hcut)
    have hlow : 2 ^ 52 ≤ cut'.roundedMantissa := by
      refine ((hplace'.eq_lowest_or_le_mantissa hcut').resolve_left ?_).trans
        (StandsFor.mantissa_le_roundedMantissa cut')
      have := hplace.lowest_le
      omega
    calc (cut.roundedMantissa : Rat) * 2 ^ place ≤ 2 ^ 53 * 2 ^ place := by
          gcongr; exact_mod_cast hup
      _ = 2 ^ 52 * 2 ^ (place + 1) := by rw [zpow_add_one₀ two_ne_zero]; ring
      _ ≤ 2 ^ 52 * 2 ^ place' := by
          gcongr
          · exact one_le_two
          · exact hlt
      _ ≤ cut'.roundedMantissa * 2 ^ place' := by gcongr; exact_mod_cast hlow
  · have hdiv : x / 2 ^ place ≤ x' / 2 ^ place := by gcongr
    have hsame := hcut.roundedMantissa_mono hcut' hdiv
    gcongr
  · have hpow : (2 : Rat) ^ (place + 52) ≤ x := by
      refine hplace.eq_lowest_or_pow_le.resolve_left ?_
      have := hplace'.lowest_le
      omega
    have hplaces : (2 : Rat) ^ (place' + 53) ≤ 2 ^ (place + 52) := by
      apply zpow_le_zpow_right₀ one_le_two
      omega
    exact absurd hle (not_le.mpr (hplace'.lt_pow.trans_le (hplaces.trans hpow)))

end DriverAlerts.Number
