import DriverAlerts.Proofs.Number.Rounding
import Mathlib
/-!
# Quotients of doubles

The significands are divided with so many digits that the quotient is cut off below the place that
rounding needs, and what is cut off is put into the two bits that rounding reads. So the quotient of
two doubles is the exact quotient, rounded. A significand that rounding carries to the next power of
two loses a zero and is a significand again.
-/

namespace DriverAlerts.Number

open Float.Model Float.Model.UnpackedFloat

theorem targetExponent_eq (total : Int) :
    Format.binary64.targetExponent total = max (total - 53) (-1074) := rfl

/-- Fifty-three digits, or fewer at the lowest exponent. There is no greatest exponent yet. -/
structure IsCanonical (m : Nat) (e : Int) : Prop where
  lt_pow : m < 2 ^ 53
  lowest_le : -1074 ≤ e
  eq_lowest_or_pow_le : e = -1074 ∨ 2 ^ 52 ≤ m

/-- The form of a rounded number that is not negative. -/
def IsRounded (z : Rat) : UnpackedFloat → Prop
  | .zero .positive => z = 0
  | .finite .positive m e _ => z = m * (2 : Rat) ^ e ∧ IsCanonical m e
  | _ => False

theorem pow_totalExponent_le_magnitude {m : Nat} (hm : 0 < m) (e : Int) :
    (2 : Rat) ^ (totalExponent m e - 1) ≤ m * 2 ^ e := by
  have hpow : (2 : Rat) ^ m.log2 ≤ m := by exact_mod_cast Nat.log2_self_le hm.ne'
  calc (2 : Rat) ^ (totalExponent m e - 1) = 2 ^ m.log2 * 2 ^ e := by
        rw [← zpow_natCast, ← zpow_add₀ two_ne_zero, totalExponent]
        congr 1
        ring
    _ ≤ m * 2 ^ e := by gcongr

theorem succ_magnitude_le_pow_totalExponent (m : Nat) (e : Int) :
    ((m : Rat) + 1) * 2 ^ e ≤ 2 ^ totalExponent m e := by
  have hpow : (m : Rat) + 1 ≤ 2 ^ (m.log2 + 1) := by exact_mod_cast Nat.lt_log2_self
  calc ((m : Rat) + 1) * 2 ^ e ≤ 2 ^ (m.log2 + 1) * 2 ^ e := by gcongr
    _ = 2 ^ totalExponent m e := by
        rw [← zpow_natCast, ← zpow_add₀ two_ne_zero, totalExponent]
        rfl

@[simp] theorem mantissa_ofMantissaAndAccuracy (m : Nat) (accuracy : Accuracy) :
    (ExtendedMantissa.ofMantissaAndAccuracy m accuracy).mantissa = m := by
  cases accuracy with
  | exact => rfl
  | inexact half => cases half <;> rfl

theorem shiftToTargetExponent_eq {m : Nat} {e : Int} {accuracy : Accuracy}
    (he : e ≤ Format.binary64.targetExponent (totalExponent m e)) :
    shiftToTargetExponent .binary64 m e accuracy =
      (ExtendedMantissa.ofMantissaAndAccuracy m accuracy >>>
          (Format.binary64.targetExponent (totalExponent m e) - e).toNat,
        Format.binary64.targetExponent (totalExponent m e)) := by
  have hexponent : e + (Format.binary64.targetExponent (totalExponent m e) - e).toNat =
      Format.binary64.targetExponent (totalExponent m e) := by
    omega
  simp only [shiftToTargetExponent, shiftToExponent, hexponent]

section Round

variable {m : Nat} {e : Int} {accuracy : Accuracy} {x : Rat}
  (hcut : StandsFor (.ofMantissaAndAccuracy m accuracy) (x / 2 ^ e))
  (he : e ≤ Format.binary64.targetExponent (totalExponent m e))
include hcut

theorem lt_pow_totalExponent : x < 2 ^ totalExponent m e := by
  have hlt := hcut.lt_mantissa_add_one
  rw [mantissa_ofMantissaAndAccuracy, div_lt_iff₀ (by positivity)] at hlt
  exact hlt.trans_le (succ_magnitude_le_pow_totalExponent m e)

theorem pow_totalExponent_le (hm : 0 < m) : (2 : Rat) ^ (totalExponent m e - 1) ≤ x := by
  have hle := hcut.mantissa_le
  rw [mantissa_ofMantissaAndAccuracy, le_div_iff₀ (by positivity)] at hle
  exact (pow_totalExponent_le_magnitude hm e).trans hle

include he

theorem isPlace_targetExponent :
    IsPlace (Format.binary64.targetExponent (totalExponent m e)) x := by
  have hlt := lt_pow_totalExponent hcut
  rw [targetExponent_eq] at he ⊢
  refine ⟨le_max_right _ _, hlt.trans_le ?_, ?_⟩
  · apply zpow_le_zpow_right₀ one_le_two
    omega
  · by_cases hlow : totalExponent m e - 53 ≤ -1074
    · exact .inl (max_eq_right hlow)
    · refine .inr ?_
      have hm : 0 < m := by
        refine Nat.pos_of_ne_zero ?_
        rintro rfl
        simp only [totalExponent, Nat.log2_zero] at he hlow
        omega
      rw [max_eq_left (by omega)]
      have hpow := pow_totalExponent_le hcut hm
      rwa [show totalExponent m e - 53 + 52 = totalExponent m e - 1 by ring]

theorem standsFor_shiftToTargetExponent :
    StandsFor (shiftToTargetExponent .binary64 m e accuracy).1
      (x / 2 ^ Format.binary64.targetExponent (totalExponent m e)) := by
  rw [shiftToTargetExponent_eq he]
  have hshift := hcut.shiftRight (Format.binary64.targetExponent (totalExponent m e) - e).toNat
  rwa [div_div, ← zpow_natCast, ← zpow_add₀ two_ne_zero, Int.toNat_of_nonneg (by omega),
    add_sub_cancel] at hshift

end Round

/-- A significand that rounding has not carried too far stays as it is. -/
theorem shiftToTargetExponent_of_lt {m : Nat} {e : Int} (hm : m < 2 ^ 53) (he : -1074 ≤ e) :
    shiftToTargetExponent .binary64 m e .exact = (⟨m, false, false⟩, e) := by
  have hlog : m.log2 ≤ 52 := by
    by_cases hzero : m = 0
    · rw [hzero, Nat.log2_zero]
      decide
    · exact Nat.le_of_lt_succ ((Nat.log2_lt hzero).mpr hm)
  have hshift : (Format.binary64.targetExponent (totalExponent m e) - e).toNat = 0 := by
    rw [targetExponent_eq, totalExponent]
    omega
  simp only [shiftToTargetExponent, shiftToExponent, hshift, Nat.cast_zero, add_zero]
  rfl

/-- A significand that was carried to the next power of two loses its last digit, a zero. -/
theorem shiftToTargetExponent_of_carried {e : Int} (he : -1074 ≤ e) :
    shiftToTargetExponent .binary64 (2 ^ 53) e .exact = (⟨2 ^ 52, false, false⟩, e + 1) := by
  have hshift : (Format.binary64.targetExponent (totalExponent (2 ^ 53) e) - e).toNat = 1 := by
    rw [targetExponent_eq, totalExponent, Nat.log2_two_pow]
    omega
  simp only [shiftToTargetExponent, shiftToExponent, hshift, Nat.cast_one]
  rfl

theorem exists_isRounded_of_roundsTo {m : Nat} {e : Int} {accuracy : Accuracy} {x : Rat}
    (hcut : StandsFor (.ofMantissaAndAccuracy m accuracy) (x / 2 ^ e))
    (he : e ≤ Format.binary64.targetExponent (totalExponent m e)) :
    ∃ z, RoundsTo x z ∧ IsRounded z (roundWithAccuracy .binary64 .positive m e accuracy) := by
  have hplace := isPlace_targetExponent hcut he
  have hfirst := standsFor_shiftToTargetExponent hcut he
  have hexponent : (shiftToTargetExponent .binary64 m e accuracy).2 =
      Format.binary64.targetExponent (totalExponent m e) := by
    rw [shiftToTargetExponent_eq he]
  refine ⟨_, ⟨_, _, hplace, hfirst, rfl⟩, ?_⟩
  have hup := (StandsFor.roundedMantissa_le _).trans (hplace.mantissa_lt hfirst)
  have hlow := (hplace.eq_lowest_or_le_mantissa hfirst).imp_right fun h =>
    h.trans (StandsFor.mantissa_le_roundedMantissa _)
  have hlowest := hplace.lowest_le
  rw [← hexponent] at hlow hlowest ⊢
  -- What has been rounded is shifted once more, and that changes it only where the rounding carried.
  rw [roundWithAccuracy]
  generalize shiftToTargetExponent .binary64 m e accuracy = first at hup hlow hlowest ⊢
  obtain ⟨cut, place⟩ := first
  dsimp only at hup hlow hlowest ⊢
  rcases hup.lt_or_eq with hlt | heq
  · rw [shiftToTargetExponent_of_lt hlt hlowest]
    dsimp only
    split_ifs with hzero
    · rw [IsRounded, hzero, Nat.cast_zero, zero_mul]
    · exact ⟨rfl, hlt, hlowest, hlow⟩
  · rw [heq, shiftToTargetExponent_of_carried hlowest]
    dsimp only
    rw [dif_neg (by decide)]
    refine ⟨?_, by decide, by omega, .inr le_rfl⟩
    push_cast
    rw [zpow_add_one₀ two_ne_zero]
    ring

/-! ### Division -/

section Divide

variable {m n : Nat} (hm : 0 < m) (hn : 0 < n) (e f : Int)
include hm hn

/-- The quotient of the significands, with digits enough, is cut off at the exponent that goes with it. -/
theorem standsFor_divCore :
    StandsFor
      (.ofMantissaAndAccuracy (divCore .binary64 m e n f).1 (divCore .binary64 m e n f).2.2)
      (m * 2 ^ e / (n * 2 ^ f) / (2 : Rat) ^ (divCore .binary64 m e n f).2.1) := by
  have hexponent : (divCore .binary64 m e n f).2.1 ≤ e - f := min_le_left _ _
  have hquotient := StandsFor.ofQuotient (m <<< (e - f - (divCore .binary64 m e n f).2.1).toNat) hn
  have hvalue : ((m <<< (e - f - (divCore .binary64 m e n f).2.1).toNat : Nat) : Rat) / n =
      m * 2 ^ e / (n * 2 ^ f) / (2 : Rat) ^ (divCore .binary64 m e n f).2.1 := by
    rw [Nat.shiftLeft_eq, Nat.cast_mul, Nat.cast_pow, Nat.cast_ofNat, ← zpow_natCast,
      Int.toNat_of_nonneg (by omega), zpow_sub₀ two_ne_zero, zpow_sub₀ two_ne_zero]
    field_simp
  rwa [hvalue] at hquotient

/-- There are digits enough. -/
theorem exponent_divCore_le :
    (divCore .binary64 m e n f).2.1 ≤ Format.binary64.targetExponent
      (totalExponent (divCore .binary64 m e n f).1 (divCore .binary64 m e n f).2.1) := by
  have hlt := lt_pow_totalExponent (standsFor_divCore hm hn e f)
  have hlow : (2 : Rat) ^ (totalExponent m e - totalExponent n f - 1) < m * 2 ^ e / (n * 2 ^ f) := by
    have hn' : (0 : Rat) < n := by exact_mod_cast hn
    rw [lt_div_iff₀ (by positivity)]
    calc (2 : Rat) ^ (totalExponent m e - totalExponent n f - 1) * (n * 2 ^ f)
        < 2 ^ (totalExponent m e - totalExponent n f - 1) * 2 ^ totalExponent n f := by
          gcongr
          refine lt_of_lt_of_le ?_ (succ_magnitude_le_pow_totalExponent n f)
          gcongr
          exact lt_add_one _
      _ = 2 ^ (totalExponent m e - 1) := by
          rw [← zpow_add₀ two_ne_zero]
          congr 1
          ring
      _ ≤ m * 2 ^ e := pow_totalExponent_le_magnitude hm e
  -- The quotient lies between the powers, so its digits reach at least as high as those of the two
  -- significands let expect.
  have htotal := (zpow_lt_zpow_iff_right₀ one_lt_two).mp (hlow.trans hlt)
  have hexponent : (divCore .binary64 m e n f).2.1 ≤
      Format.binary64.targetExponent (totalExponent m e - totalExponent n f) := min_le_right _ _
  rw [targetExponent_eq] at hexponent ⊢
  omega

/-- The quotient of two doubles is the exact quotient rounded. -/
theorem exists_isRounded_div :
    ∃ z, RoundsTo (m * 2 ^ e / (n * 2 ^ f)) z ∧
      IsRounded z (div .binary64 (.finite .positive m e hm) (.finite .positive n f hn)) :=
  exists_isRounded_of_roundsTo (standsFor_divCore hm hn e f) (exponent_divCore_le hm hn e f)

end Divide

end DriverAlerts.Number
