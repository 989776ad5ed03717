import DriverAlerts.Cycles
/-!
# Counts stop at the limit

A count of cycles is a natural number cut off at the greatest one, and counting on from a count that
was cut off gives the same as cutting off once at the end. Comparing a count with a threshold
therefore never shows the cut: a threshold is itself a count, so what is beyond the limit has passed
every threshold.
-/

namespace DriverAlerts.Cycles

theorem toNat_le_limit (n : Cycles) : n.toNat ≤ limit :=
  Nat.le_pred_of_lt n.toNat_lt

@[simp] theorem toNat_saturate (n : Nat) : (saturate n).toNat = min n limit := by
  have hbound : min n limit < UInt32.size :=
    Nat.lt_of_le_of_lt (Nat.min_le_right n limit) (by decide)
  rw [saturate, UInt32.toNat_ofNat_of_lt' hbound]

/-- The next count of a count that may have been cut off. -/
theorem next_saturate (n : Nat) : (saturate n).next = saturate (n + 1) := by
  apply UInt32.toNat_inj.mp
  rw [next, toNat_saturate, toNat_saturate, toNat_saturate]
  omega

/-- A count covers a threshold exactly when the number it stands for does. -/
theorem le_saturate_iff {threshold : Cycles} {n : Nat} :
    threshold ≤ saturate n ↔ threshold.toNat ≤ n := by
  have hlimit := toNat_le_limit threshold
  rw [UInt32.le_iff_toNat_le, toNat_saturate]
  omega

theorem saturate_lt_iff {threshold : Cycles} {n : Nat} :
    saturate n < threshold ↔ n < threshold.toNat := by
  have hlimit := toNat_le_limit threshold
  rw [UInt32.lt_iff_toNat_lt, toNat_saturate]
  omega

theorem required_zero : required 0 = 0 := by
  decide

end DriverAlerts.Cycles
