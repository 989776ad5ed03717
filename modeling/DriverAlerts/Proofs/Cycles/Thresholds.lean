import DriverAlerts.Proofs.Cycles.Saturation
import DriverAlerts.Proofs.Number.Double
import Mathlib.Algebra.Order.Floor.Semiring
import Mathlib.Data.Rat.Floor
/-!
# Seconds as thresholds

Both roundings of the quotient of seconds and period cut off what is behind the point, after the
quotient has been shifted: by a half for the nearest whole number, and by one less the slack for the
ceiling that forgives the slack. What they have in common is shown for every rounding of this kind. The
quotient is the exact quotient of two rationals rounded to a double, so it grows with the seconds. A
quotient too great for a double is infinite. It is rounded here as if there were a double for it, and
then it is beyond the greatest count either way.
-/

namespace DriverAlerts.Cycles

open Number

/-! ### The two roundings -/

/-- Cuts off what is behind the point, after a shift. -/
def IsFloorAfter (shift : Rat) (round : Rat → Int) : Prop :=
  ∀ q, 0 ≤ q → round q = ⌊q + shift⌋

theorem nearest_isFloorAfter : IsFloorAfter (1 / 2) nearest := by
  intro q hq
  rw [nearest, if_neg (not_lt.mpr hq)]
  rfl

theorem snappedCeiling_isFloorAfter {slack : Rat} (hpos : 0 < slack) (hhalf : slack ≤ 1 / 2) :
    IsFloorAfter (1 - slack) (snappedCeiling · slack) := by
  intro q hq
  dsimp only
  rw [snappedCeiling, nearest_isFloorAfter q hq]
  have hlow := Int.floor_le (q + 1 / 2)
  have hhigh := Int.lt_floor_add_one (q + 1 / 2)
  have hceil : q.ceil = ⌈q⌉ := Rat.ceil_eq_neg_floor_neg q
  -- The nearest whole number is the ceiling or the one below it, and then it may be near enough.
  generalize ⌊q + 1 / 2⌋ = whole at hlow hhigh ⊢
  rw [eq_comm, Int.floor_eq_iff]
  by_cases hbelow : q < whole
  · have hwhole : ⌈q⌉ = whole := Int.ceil_eq_iff.mpr ⟨by linarith, hbelow.le⟩
    rw [if_pos hbelow, hceil, hwhole, ite_self]
    constructor <;> linarith
  · rw [if_neg hbelow]
    split_ifs with hnear
    · constructor <;> linarith
    · have hnext : ⌈q⌉ = whole + 1 := by
        rw [Int.ceil_eq_iff]
        push_cast
        constructor <;> linarith
      rw [hceil, hnext]
      push_cast
      constructor <;> linarith

theorem isLeast_floor {q slack : Rat} (hq : 0 ≤ q) (hslack : slack ≤ 1) :
    IsLeast {n : Nat | q - slack < n} ⌊q + (1 - slack)⌋₊ := by
  constructor
  · have := Nat.lt_floor_add_one (q + (1 - slack))
    change q - slack < _
    linarith
  · intro n hn
    refine Nat.le_of_lt_succ ((Nat.floor_lt (by linarith)).mpr ?_)
    push_cast
    have : q - slack < n := hn
    linarith

/-- The ceiling that forgives the slack is the ceiling, unless a whole number is passed by less than
the slack. -/
theorem exists_passed_of_floor_ne_ceil {q slack : Rat} (hq : 0 ≤ q) (hpos : 0 < slack)
    (hslack : slack ≤ 1) (hne : ⌊q + (1 - slack)⌋₊ ≠ ⌈q⌉₊) :
    ∃ n : Nat, (n : Rat) < q ∧ q - n < slack := by
  obtain ⟨hmem, hleast⟩ := isLeast_floor hq hslack
  have hle : ⌊q + (1 - slack)⌋₊ ≤ ⌈q⌉₊ := by
    apply hleast
    have := Nat.le_ceil q
    change q - slack < _
    linarith
  refine ⟨_, Nat.lt_ceil.mp (lt_of_le_of_ne hle hne), ?_⟩
  have : q - slack < _ := hmem
  linarith

/-! ### The quotient -/

/-- The exact quotient of the seconds and the period, rounded. -/
structure IsQuotient (seconds : Float) (q : Rat) : Prop where
  exists_roundsTo : ∃ a b, toRat? seconds = some a ∧ toRat? period = some b ∧ 0 < b ∧
    RoundsTo (a / b) q
  nonneg : 0 ≤ q
  toRat?_eq : if q < 2 ^ (1024 : Int) then toRat? (seconds / period) = some q
    else (seconds / period).isInf

theorem exists_isQuotient {seconds : Float} (hfinite : seconds.isFinite) (hpos : 0 < seconds) :
    ∃ q, IsQuotient seconds q := by
  obtain ⟨a, ha, hapos⟩ := exists_toRat?_of_pos hfinite hpos
  obtain ⟨b, hb, hbpos⟩ := exists_toRat?_of_pos (x := period) (by decide) (by decide)
  obtain ⟨q, hround, hq⟩ := toRat?_div ha hb hapos hbpos
  exact ⟨q, ⟨a, b, ha, hb, hbpos, hround⟩, hround.nonneg, hq⟩

theorem IsQuotient.mono {x y : Float} {q q' : Rat} (h : IsQuotient x q) (h' : IsQuotient y q')
    (hle : x ≤ y) : q ≤ q' := by
  obtain ⟨a, b, ha, hb, hpos, hround⟩ := h.exists_roundsTo
  obtain ⟨a', b', ha', hb', -, hround'⟩ := h'.exists_roundsTo
  obtain rfl : b = b' := Option.some.inj (hb.symm.trans hb')
  have hle' : a ≤ a' := (le_iff_of_toRat? ha ha').mp hle
  exact hround.mono hround' (div_le_div_of_nonneg_right hle' hpos.le)

/-! ### Counts -/

theorem ofSeconds_of_not_pos {round : Rat → Int} {seconds : Float} (h : ¬ 0 < seconds) :
    ofSeconds round seconds = 0 :=
  if_neg fun hboth => h hboth.2

theorem ofSeconds_of_nonpos {round : Rat → Int} {seconds : Float} (h : seconds ≤ 0) :
    ofSeconds round seconds = 0 := by
  refine if_neg ?_
  rintro ⟨hfinite, hpos⟩
  obtain ⟨a, ha, hapos⟩ := exists_toRat?_of_pos hfinite hpos
  exact absurd ((le_iff_of_toRat? ha toRat?_zero).mp h) (not_le.mpr hapos)

theorem toNat_ofSeconds_of_isInf {round : Rat → Int} {seconds : Float} (hfinite : seconds.isFinite)
    (hpos : 0 < seconds) (hinf : (seconds / period).isInf) :
    (ofSeconds round seconds).toNat = limit := by
  rw [ofSeconds, if_pos ⟨hfinite, hpos⟩, toRat?_eq_none_of_isInf hinf]
  dsimp only
  rw [toNat_saturate, min_self]

section Counts

variable {shift : Rat} {round : Rat → Int} (hround : IsFloorAfter shift round) (hshift : 0 ≤ shift)
include hround hshift

theorem toNat_ofSeconds {seconds : Float} (hfinite : seconds.isFinite) (hpos : 0 < seconds)
    {q : Rat} (hq : IsQuotient seconds q) :
    (ofSeconds round seconds).toNat = min limit ⌊q + shift⌋₊ := by
  have hcase := hq.toRat?_eq
  split_ifs at hcase with hbelow
  · rw [ofSeconds, if_pos ⟨hfinite, hpos⟩, hcase]
    dsimp only
    rw [toNat_saturate, hround q hq.nonneg, Int.floor_toNat, min_comm]
  · -- The number that stands in for an infinite quotient is beyond the limit.
    have hbeyond : limit ≤ ⌊q + shift⌋₊ := by
      apply Nat.le_floor
      calc (limit : Rat) ≤ 2 ^ (32 : Int) := by norm_num [limit, UInt32.size]
        _ ≤ 2 ^ (1024 : Int) := zpow_le_zpow_right₀ one_le_two (by decide)
        _ ≤ q := not_lt.mp hbelow
        _ ≤ q + shift := le_add_of_nonneg_right hshift
    rw [toNat_ofSeconds_of_isInf hfinite hpos hcase, min_eq_left hbeyond]

theorem ofSeconds_mono {x y : Float} (hx : x.isFinite) (hy : y.isFinite) (hle : x ≤ y) :
    ofSeconds round x ≤ ofSeconds round y := by
  by_cases hpos : 0 < x
  · have hpos' : 0 < y := by
      obtain ⟨a, ha, hapos⟩ := exists_toRat?_of_pos hx hpos
      obtain ⟨b, hb⟩ := exists_toRat? hy
      have hab := (le_iff_of_toRat? ha hb).mp hle
      exact (lt_iff_of_toRat? toRat?_zero hb).mpr (hapos.trans_le hab)
    obtain ⟨q, hq⟩ := exists_isQuotient hx hpos
    obtain ⟨q', hq'⟩ := exists_isQuotient hy hpos'
    have hqq' := hq.mono hq' hle
    rw [UInt32.le_iff_toNat_le, toNat_ofSeconds hround hshift hx hpos hq,
      toNat_ofSeconds hround hshift hy hpos' hq']
    gcongr
  · rw [ofSeconds_of_not_pos hpos]
    exact UInt32.zero_le

end Counts

/-! ### Thresholds -/

/-- What the ceiling forgives is less than half a cycle. -/
theorem exists_toRat?_tolerance :
    ∃ slack, toRat? tolerance = some slack ∧ 0 < slack ∧ slack < 1 / 2 := by
  obtain ⟨slack, hslack, hpos⟩ := exists_toRat?_of_pos (x := tolerance) (by decide) (by decide)
  have hhalf : toRat? 0.5 = some (1 / 2) := by decide +kernel
  exact ⟨slack, hslack, hpos, (lt_iff_of_toRat? hslack hhalf).mp (by decide)⟩

theorem required_eq {slack : Rat} (hslack : toRat? tolerance = some slack) (seconds : Float) :
    required seconds = ofSeconds (snappedCeiling · slack) seconds := by
  rw [required, hslack]
  rfl

theorem duration_le_required (seconds : Float) :
    duration seconds ≤ required seconds ∧
      (required seconds).toNat ≤ (duration seconds).toNat + 1 := by
  obtain ⟨slack, hslack, hpos, hhalf⟩ := exists_toRat?_tolerance
  rw [required_eq hslack, duration]
  by_cases h : seconds.isFinite ∧ 0 < seconds
  · obtain ⟨q, hq⟩ := exists_isQuotient h.1 h.2
    have hduration := toNat_ofSeconds nearest_isFloorAfter (by norm_num) h.1 h.2 hq
    have hrequired := toNat_ofSeconds (snappedCeiling_isFloorAfter hpos hhalf.le) (by linarith)
      h.1 h.2 hq
    have hnonneg := hq.nonneg
    have hlow : ⌊q + 1 / 2⌋₊ ≤ ⌊q + (1 - slack)⌋₊ := Nat.floor_le_floor (by linarith)
    have hhigh : ⌊q + (1 - slack)⌋₊ ≤ ⌊q + 1 / 2⌋₊ + 1 := by
      rw [← Nat.floor_add_one (by linarith)]
      exact Nat.floor_le_floor (by linarith)
    rw [UInt32.le_iff_toNat_le, hduration, hrequired]
    omega
  · rw [ofSeconds, ofSeconds, if_neg h, if_neg h]
    decide

/-- Seconds become the least count that a quotient has not passed by the slack, or the nearest one,
cut off at the limit. Both counts grow with the seconds and differ by at most one. -/
theorem thresholds_are_snapped_ceilings :
    ∃ slack : Rat, toRat? tolerance = some slack ∧ 0 < slack ∧ slack < 1 / 2 ∧
      (∀ seconds : Float, seconds.isFinite → 0 < seconds →
        (∃ q, toRat? (seconds / period) = some q ∧ 0 ≤ q ∧
          (∃ least : Nat, IsLeast {n : Nat | q - slack < n} least ∧
            (required seconds).toNat = min limit least) ∧
          (duration seconds).toNat = min limit ⌊q + 1 / 2⌋₊ ∧
          ((required seconds).toNat ≠ min limit ⌈q⌉₊ →
            ∃ n : Nat, (n : Rat) < q ∧ q - n < slack)) ∨
        ((seconds / period).isInf ∧
          (required seconds).toNat = limit ∧ (duration seconds).toNat = limit)) ∧
      (∀ seconds : Float, seconds ≤ 0 → required seconds = 0 ∧ duration seconds = 0) ∧
      (∀ x y : Float, x.isFinite → y.isFinite → x ≤ y →
        required x ≤ required y ∧ duration x ≤ duration y) ∧
      ∀ seconds : Float, duration seconds ≤ required seconds ∧
        (required seconds).toNat ≤ (duration seconds).toNat + 1 := by
  obtain ⟨slack, hslack, hpos, hhalf⟩ := exists_toRat?_tolerance
  have hsnap := snappedCeiling_isFloorAfter hpos hhalf.le
  have hshift : 0 ≤ 1 - slack := by linarith
  refine ⟨slack, hslack, hpos, hhalf, ?_, ?_, ?_, duration_le_required⟩
  · intro seconds hfinite hpositive
    obtain ⟨q, hq⟩ := exists_isQuotient hfinite hpositive
    have hcase := hq.toRat?_eq
    rw [required_eq hslack, duration]
    split_ifs at hcase
    · have hrequired := toNat_ofSeconds hsnap hshift hfinite hpositive hq
      refine .inl ⟨q, hcase, hq.nonneg, ⟨_, isLeast_floor hq.nonneg (by linarith), hrequired⟩,
        toNat_ofSeconds nearest_isFloorAfter (by norm_num) hfinite hpositive hq, ?_⟩
      intro hne
      rw [hrequired] at hne
      exact exists_passed_of_floor_ne_ceil hq.nonneg hpos (by linarith)
        (mt (congrArg (min limit)) hne)
    · exact .inr ⟨hcase, toNat_ofSeconds_of_isInf hfinite hpositive hcase,
        toNat_ofSeconds_of_isInf hfinite hpositive hcase⟩
  · intro seconds hnonpos
    exact ⟨ofSeconds_of_nonpos hnonpos, ofSeconds_of_nonpos hnonpos⟩
  · intro x y hx hy hle
    rw [required_eq hslack, required_eq hslack]
    exact ⟨ofSeconds_mono hsnap hshift hx hy hle,
      ofSeconds_mono nearest_isFloorAfter (by norm_num) hx hy hle⟩

/-- Seven hundredths of a second are seven cycles, though the quotient is a little more than seven. -/
theorem thresholds_of_seven_hundredths :
    (∃ q slack : Rat, toRat? (0.07 / period) = some q ∧ toRat? tolerance = some slack ∧
      (required 0.07).toNat = 7 ∧ ⌈q⌉₊ = 8 ∧ ∃ n : Nat, (n : Rat) < q ∧ q - n < slack) ∧
    ((1e308 / period).isInf ∧ (required 1e308).toNat = limit) ∧
    required (-1) = 0 ∧
    required 0.07 ≤ required 1e308 := by
  obtain ⟨slack, hslack, -, -, hpos, hnonpos, hmono, -⟩ := thresholds_are_snapped_ceilings
  have hseven : (required 0.07).toNat = 7 := by decide +kernel
  have hquotient : toRat? (0.07 / period) = some (7881299347898369 / 1125899906842624) := by
    decide +kernel
  have height : ⌈(7881299347898369 / 1125899906842624 : Rat)⌉₊ = 8 := by
    rw [Nat.ceil_eq_iff (by decide)]
    norm_num
  have hfinite : (1e308 : Float).isFinite := by decide +kernel
  have hnone : toRat? (1e308 / period) = none := by decide +kernel
  refine ⟨⟨_, slack, hquotient, hslack, hseven, height, ?_⟩, ?_,
    (hnonpos (-1) (by decide)).1, (hmono 0.07 1e308 (by decide) hfinite (by decide +kernel)).1⟩
  · rcases hpos 0.07 (by decide) (by decide) with ⟨q, hq, -, -, -, hpassed⟩ | ⟨hinf, -, -⟩
    · obtain rfl := Option.some.inj (hquotient.symm.trans hq)
      refine hpassed ?_
      rw [hseven, height]
      decide
    · exact absurd hinf (by decide)
  · rcases hpos 1e308 hfinite (by decide +kernel) with ⟨q, hq, -⟩ | ⟨hinf, hrequired, -⟩
    · exact absurd (hnone.symm.trans hq) (Option.some_ne_none q).symm
    · exact ⟨hinf, hrequired⟩

end DriverAlerts.Cycles
