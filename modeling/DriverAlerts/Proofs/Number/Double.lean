import DriverAlerts.Number.Exact
import DriverAlerts.Proofs.Number.Division
/-!
# Doubles as rationals

The number that is read off the bits of a double is the one on which arithmetic works when it unpacks
the double. So arithmetic can be followed on rationals: an order of doubles is an order of rationals,
and a quotient of doubles is a quotient of rationals, rounded. What is rounded to `2 ^ 1024` or more is
packed as infinity, and everything below keeps its value.
-/

namespace DriverAlerts.Number

open Float.Model Float.Model.UnpackedFloat

/-- The rational that is unpacked. -/
def rational? : UnpackedFloat → Option Rat
  | .finite sign m e _ => some (sign.apply m * (2 : Rat) ^ e)
  | .zero _ => some 0
  | .infinity _ | .notANumber => none

theorem power_two_eq (e : Int) : power 2 e = (2 : Rat) ^ e := by
  rw [power]
  split_ifs with h
  · obtain ⟨n, rfl⟩ := Int.eq_ofNat_of_zero_le h
    rw [Int.toNat_natCast, zpow_natCast, Rat.mkRat_one]
    exact_mod_cast rfl
  · obtain ⟨n, hn⟩ := Int.eq_ofNat_of_zero_le (Int.neg_nonneg_of_nonpos (not_le.mp h).le)
    rw [hn, Int.toNat_natCast, Rat.mkRat_eq_div, ← neg_neg e, hn, zpow_neg, zpow_natCast,
      Int.cast_one, one_div]
    exact_mod_cast rfl

section Bits

variable (b : BitVec Format.binary64.numBits)

theorem toNat_unpackExponent :
    (unpackExponent b).toNat = b.toNat / Binary.fractions % Binary.scales := by
  rw [unpackExponent, BitVec.toNat_cast, BitVec.extractLsb, BitVec.extractLsb'_toNat,
    Nat.shiftRight_eq_div_pow]
  rfl

theorem toNat_unpackMantissa : (unpackMantissa b).toNat = b.toNat % Binary.fractions := by
  rw [unpackMantissa, BitVec.toNat_cast, BitVec.extractLsb, BitVec.extractLsb'_toNat,
    Nat.shiftRight_zero]
  rfl

theorem toNat_unpackSign : (unpackSign b).toNat = b.toNat / Binary.fractions / Binary.scales := by
  have hb : b.toNat < 2 ^ 64 := b.isLt
  rw [unpackSign, BitVec.toNat_cast, BitVec.extractLsb, BitVec.extractLsb'_toNat,
    Nat.shiftRight_eq_div_pow, Nat.div_div_eq_div_mul]
  refine Nat.mod_eq_of_lt (Nat.div_lt_of_lt_mul ?_)
  exact hb

theorem toNat_one_append {w : Nat} (v : BitVec w) : (1#1 ++ v).toNat = v.toNat + 2 ^ w := by
  rw [BitVec.toNat_append, ← Nat.shiftLeft_add_eq_or_of_lt v.isLt, Nat.shiftLeft_eq,
    BitVec.toNat_one Nat.one_pos, one_mul, add_comm]

theorem rational?_finite_unpackSign {m : Nat} {e : Int} {hm : 0 < m} :
    rational? (.finite (Sign.ofBitVec (unpackSign b)) m e hm) =
      some (Binary.value ⟨b.toNat / Binary.fractions / Binary.scales == 1, m, e⟩) := by
  rw [← toNat_unpackSign, Binary.value, Binary.magnitude, power_two_eq, rational?]
  rcases BitVec.eq_zero_or_eq_one (unpackSign b) with h | h <;> rw [h]
  · rfl
  · simp [Sign.ofBitVec, Sign.apply]

theorem rational?_unpack : rational? (UnpackedFloat.unpack .binary64 b) =
    if b.toNat / Binary.fractions % Binary.scales = 2047 then none
    else if b.toNat / Binary.fractions % Binary.scales = 0 then some (Binary.value
      ⟨b.toNat / Binary.fractions / Binary.scales == 1, b.toNat % Binary.fractions, -1074⟩)
    else some (Binary.value ⟨b.toNat / Binary.fractions / Binary.scales == 1,
      b.toNat % Binary.fractions + Binary.fractions,
      ((b.toNat / Binary.fractions % Binary.scales : Nat) : Int) - 1075⟩) := by
  have hnone : (unpackExponent b = -1#_) ↔ b.toNat / Binary.fractions % Binary.scales = 2047 := by
    rw [← BitVec.toNat_inj, toNat_unpackExponent]
    rfl
  have hlow : (unpackExponent b = 0#_) ↔ b.toNat / Binary.fractions % Binary.scales = 0 := by
    rw [← BitVec.toNat_inj, toNat_unpackExponent]
    rfl
  have hzero : (unpackMantissa b = 0#_) ↔ b.toNat % Binary.fractions = 0 := by
    rw [← BitVec.toNat_inj, toNat_unpackMantissa]
    rfl
  rw [UnpackedFloat.unpack]
  simp only [hnone, hlow, hzero]
  split_ifs with hall hfraction hscale hfraction
  · rfl
  · rfl
  · rw [hfraction, Binary.value, Binary.magnitude]
    simp [rational?]
  · rw [rational?_finite_unpackSign, toNat_unpackMantissa, toNat_unpackExponent, hscale]
    rfl
  · rw [rational?_finite_unpackSign, toNat_one_append, toNat_unpackMantissa, toNat_unpackExponent]
    rfl

end Bits

theorem toRat?_eq_rational? (x : Float) : toRat? x = rational? x.toModel.unpack := by
  rw [toRat?, Binary.ofFloat?]
  change _ = rational? (UnpackedFloat.unpack .binary64 x.toBits.toBitVec)
  rw [rational?_unpack, UInt64.toNat_toBitVec]
  split_ifs <;> rfl

theorem isSome_rational? (u : UnpackedFloat) : (rational? u).isSome = u.isFinite := by
  cases u <;> rfl

theorem isSome_toRat? (x : Float) : (toRat? x).isSome = x.isFinite := by
  rw [toRat?_eq_rational?, isSome_rational?]
  rfl

theorem Binary.isSome_ofFloat? (x : Float) : (ofFloat? x).isSome = x.isFinite := by
  rw [← isSome_toRat?, toRat?, Option.isSome_map]

theorem toRat?_eq_none_of_isInf {x : Float} (h : x.isInf) : toRat? x = none := by
  rw [toRat?_eq_rational?]
  change x.toModel.unpack.isInf = true at h
  cases hx : x.toModel.unpack with
  | infinity => rfl
  | notANumber => rfl
  | zero => exact nomatch hx ▸ h
  | finite => exact nomatch hx ▸ h

/-! ### Order -/

/-- The significand has the digits that its exponent asks for. -/
def HasDigits : UnpackedFloat → Prop
  | .finite _ m e _ => IsCanonical m e
  | _ => True

theorem hasDigits_unpack (b : BitVec Format.binary64.numBits) :
    HasDigits (UnpackedFloat.unpack .binary64 b) := by
  have hfraction : (unpackMantissa b).toNat < 2 ^ 52 := (unpackMantissa b).isLt
  rw [UnpackedFloat.unpack]
  dsimp only
  split_ifs with hall hzero hscale hzero
  · trivial
  · trivial
  · trivial
  · refine ⟨by omega, ?_, .inl ?_⟩
    · rw [hscale]
      decide
    · rw [hscale]
      decide
  · have hpos : (unpackExponent b).toNat ≠ 0 := fun h => hscale (BitVec.eq_of_toNat_eq h)
    refine ⟨?_, ?_, .inr ?_⟩
    · rw [toNat_one_append]
      change _ + 2 ^ 52 < _
      omega
    · have : Format.binary64.exponentBias = 1023 := rfl
      omega
    · rw [toNat_one_append]
      exact Nat.le_add_left _ _

theorem IsCanonical.magnitude_lt_pow {m : Nat} {e : Int} (h : IsCanonical m e) :
    (m : Rat) * 2 ^ e < 2 ^ (e + 53) := by
  have hlt : (m : Rat) < 2 ^ 53 := by exact_mod_cast h.lt_pow
  calc (m : Rat) * 2 ^ e < 2 ^ 53 * 2 ^ e := by gcongr
    _ = 2 ^ (e + 53) := by
      rw [zpow_add₀ two_ne_zero, mul_comm]
      rfl

theorem IsCanonical.pow_le_magnitude {m : Nat} {e : Int} (h : IsCanonical m e) (he : e ≠ -1074) :
    (2 : Rat) ^ (e + 52) ≤ m * 2 ^ e := by
  have hle : (2 : Rat) ^ 52 ≤ m := by exact_mod_cast h.eq_lowest_or_pow_le.resolve_left he
  calc (2 : Rat) ^ (e + 52) = 2 ^ 52 * 2 ^ e := by
        rw [zpow_add₀ two_ne_zero, mul_comm]
        rfl
    _ ≤ m * 2 ^ e := by gcongr

section Compare

variable {m m' : Nat} {e e' : Int} (h : IsCanonical m e) (h' : IsCanonical m' e')
include h h'

theorem IsCanonical.magnitude_lt_of_exponent_lt (hlt : e < e') :
    (m : Rat) * 2 ^ e < m' * 2 ^ e' := by
  have hlowest := h.lowest_le
  calc (m : Rat) * 2 ^ e < 2 ^ (e + 53) := h.magnitude_lt_pow
    _ ≤ 2 ^ (e' + 52) := by
      apply zpow_le_zpow_right₀ one_le_two
      omega
    _ ≤ m' * 2 ^ e' := h'.pow_le_magnitude (by omega)

/-- Exponents are compared first. -/
theorem IsCanonical.compare_magnitude :
    compare ((m : Rat) * 2 ^ e) (m' * 2 ^ e') = (compare e e').then (compare m m') := by
  rcases lt_trichotomy e e' with hlt | rfl | hgt
  · rw [compare_lt_iff_lt.mpr hlt, Ordering.lt_then, compare_lt_iff_lt]
    exact h.magnitude_lt_of_exponent_lt h' hlt
  · have hpow : (0 : Rat) < 2 ^ e := by positivity
    rw [compare_eq_iff_eq.mpr rfl, Ordering.eq_then, ← cmp_eq_compare, ← cmp_eq_compare,
      cmp_mul_pos_right hpow, Nat.strictMono_cast.cmp_map_eq]
  · rw [compare_gt_iff_gt.mpr hgt, Ordering.gt_then, compare_gt_iff_gt]
    exact h'.magnitude_lt_of_exponent_lt h hgt

end Compare

theorem rational?_positive (m : Nat) (e : Int) (hm : 0 < m) :
    rational? (.finite .positive m e hm) = some (m * (2 : Rat) ^ e) := by
  simp [rational?, Sign.apply]

theorem magnitude_pos {m : Nat} (hm : 0 < m) (e : Int) : (0 : Rat) < m * 2 ^ e := by
  positivity

/-- A rational is unpacked as zero, or with a sign. -/
theorem cases_of_rational? {u : UnpackedFloat} {a : Rat} (ha : rational? u = some a) :
    (∃ sign, u = .zero sign ∧ a = 0) ∨
    (∃ m e hm, u = .finite .positive m e hm ∧ a = m * 2 ^ e) ∨
    (∃ m e hm, u = .finite .negative m e hm ∧ a = -(m * 2 ^ e)) := by
  cases u with
  | infinity => exact nomatch ha
  | notANumber => exact nomatch ha
  | zero sign => exact .inl ⟨sign, rfl, (Option.some.inj ha).symm⟩
  | finite sign m e hm =>
      obtain rfl : _ = a := Option.some.inj ha
      cases sign with
      | positive => exact .inr (.inl ⟨m, e, hm, rfl, by simp [Sign.apply]⟩)
      | negative => exact .inr (.inr ⟨m, e, hm, rfl, by simp [Sign.apply]⟩)

theorem eq_finite_of_pos {u : UnpackedFloat} {a : Rat} (ha : rational? u = some a) (hpos : 0 < a) :
    ∃ m e hm, u = .finite .positive m e hm ∧ a = m * 2 ^ e := by
  rcases cases_of_rational? ha with ⟨s, rfl, rfl⟩ | h | ⟨m, e, hm, rfl, rfl⟩
  · exact absurd hpos (lt_irrefl 0)
  · exact h
  · exact absurd hpos (neg_lt_zero.mpr (magnitude_pos hm e)).not_gt

/-- Doubles are ordered as the rationals that they stand for. -/
theorem compare_eq_of_rational? {u v : UnpackedFloat} (hu : HasDigits u) (hv : HasDigits v)
    {a b : Rat} (ha : rational? u = some a) (hb : rational? v = some b) :
    UnpackedFloat.compare u v = some (compare a b) := by
  rcases cases_of_rational? ha with ⟨s, rfl, rfl⟩ | ⟨m, e, hm, rfl, rfl⟩ | ⟨m, e, hm, rfl, rfl⟩ <;>
    rcases cases_of_rational? hb with
      ⟨s', rfl, rfl⟩ | ⟨m', e', hm', rfl, rfl⟩ | ⟨m', e', hm', rfl, rfl⟩ <;>
    refine congrArg some (Eq.symm ?_)
  -- Only where the signs agree and neither is zero do the digits decide.
  · exact compare_eq_iff_eq.mpr rfl
  · exact compare_lt_iff_lt.mpr (magnitude_pos hm' e')
  · exact compare_gt_iff_gt.mpr (neg_lt_zero.mpr (magnitude_pos hm' e'))
  · exact compare_gt_iff_gt.mpr (magnitude_pos hm e)
  · exact hu.compare_magnitude hv
  · exact compare_gt_iff_gt.mpr
      ((neg_lt_zero.mpr (magnitude_pos hm' e')).trans (magnitude_pos hm e))
  · exact compare_lt_iff_lt.mpr (neg_lt_zero.mpr (magnitude_pos hm e))
  · exact compare_lt_iff_lt.mpr
      ((neg_lt_zero.mpr (magnitude_pos hm e)).trans (magnitude_pos hm' e'))
  · have hmagnitude := IsCanonical.compare_magnitude hu hv
    rw [← hmagnitude, ← cmp_eq_compare, ← cmp_eq_compare, cmp_swap]
    exact StrictAnti.cmp_map_eq (fun a b h => neg_lt_neg h) _ _

section Order

variable {x y : Float} {a b : Rat} (hx : toRat? x = some a) (hy : toRat? y = some b)
include hx hy

theorem compare_toModel : x.toModel.compare y.toModel = some (compare a b) := by
  rw [toRat?_eq_rational?] at hx hy
  exact compare_eq_of_rational? (hasDigits_unpack _) (hasDigits_unpack _) hx hy

theorem lt_iff_of_toRat? : x < y ↔ a < b := by
  have hlt : x < y ↔ (x.toModel.compare y.toModel == some .lt) = true := decide_eq_true_iff
  rw [hlt, compare_toModel hx hy, beq_iff_eq, Option.some_inj, compare_lt_iff_lt]

theorem le_iff_of_toRat? : x ≤ y ↔ a ≤ b := by
  have hle : x ≤ y ↔ (x.toModel.compare y.toModel).any (·.isLE) = true := decide_eq_true_iff
  rw [hle, compare_toModel hx hy, Option.any_some, Ordering.isLE_iff_ne_gt,
    compare_gt_iff_gt, not_lt]

end Order

theorem toRat?_zero : toRat? 0 = some 0 :=
  toRat?_eq_rational? 0

theorem exists_toRat? {x : Float} (hfinite : x.isFinite) : ∃ a, toRat? x = some a := by
  rw [← isSome_toRat?] at hfinite
  exact Option.isSome_iff_exists.mp hfinite

theorem exists_toRat?_of_pos {x : Float} (hfinite : x.isFinite) (hpos : 0 < x) :
    ∃ a, toRat? x = some a ∧ 0 < a := by
  obtain ⟨a, ha⟩ := exists_toRat? hfinite
  exact ⟨a, ha, (lt_iff_of_toRat? toRat?_zero ha).mp hpos⟩

/-! ### Packing -/

theorem unpackSign_packComponents {spec : Format} (sign : Sign)
    (scale : BitVec spec.exponentBits) (fraction : BitVec spec.mantissaBitsWithoutImplicit) :
    unpackSign (packComponents spec sign scale fraction) = sign.toBitVec := by
  ext i hi
  obtain rfl : i = 0 := by omega
  simp [unpackSign, packComponents, BitVec.getLsbD_eq_getElem, BitVec.getLsbD_append,
    BitVec.getElem_append]

theorem ofBitVec_toBitVec (sign : Sign) : Sign.ofBitVec sign.toBitVec = sign := by
  cases sign <;> rfl

theorem unpack_pack_normal {m : Nat} {e : Int} (hm : 0 < m) (hlt : m < 2 ^ 53)
    (hlow : 2 ^ 52 ≤ m) (hlowest : -1074 ≤ e) (he : e ≤ 971) :
    UnpackedFloat.unpack .binary64 (packComponents .binary64 .positive
      (BitVec.ofNat 11 (e + 1075).toNat) (BitVec.ofNat 52 m)) = .finite .positive m e hm := by
  have hscale : (BitVec.ofNat 11 (e + 1075).toNat).toNat = (e + 1075).toNat := by
    rw [BitVec.toNat_ofNat, Nat.mod_eq_of_lt (by omega)]
  have hall : BitVec.ofNat 11 (e + 1075).toNat ≠ -1#11 := by
    rw [← BitVec.toNat_ne_iff_ne, hscale]
    change _ ≠ 2047
    omega
  have hzero : BitVec.ofNat 11 (e + 1075).toNat ≠ 0#11 := by
    rw [← BitVec.toNat_ne_iff_ne, hscale]
    change _ ≠ 0
    omega
  have hbias : Format.binary64.exponentBias = 1023 := rfl
  rw [UnpackedFloat.unpack]
  simp only [unpackExponent_packComponents, unpackMantissa_packComponents,
    unpackSign_packComponents, ofBitVec_toBitVec, if_neg hall, if_neg hzero, finite.injEq,
    toNat_one_append, BitVec.toNat_ofNat, hscale, hbias]
  refine ⟨trivial, ?_, ?_⟩
  · omega
  · rw [Int.toNat_of_nonneg (by omega)]
    omega

theorem unpack_pack_subnormal {m : Nat} (hm : 0 < m) (hlt : m < 2 ^ 52) :
    UnpackedFloat.unpack .binary64 (packComponents .binary64 .positive 0#11 (BitVec.ofNat 52 m)) =
      .finite .positive m (-1074) hm := by
  have hfraction : (BitVec.ofNat 52 m).toNat = m := by
    rw [BitVec.toNat_ofNat, Nat.mod_eq_of_lt hlt]
  have hzero : BitVec.ofNat 52 m ≠ 0#52 := by
    rw [← BitVec.toNat_ne_iff_ne, hfraction]
    exact hm.ne'
  rw [UnpackedFloat.unpack]
  simp only [unpackExponent_packComponents, unpackMantissa_packComponents,
    unpackSign_packComponents, ofBitVec_toBitVec]
  rw [if_neg (by decide), if_pos trivial, dif_neg hzero, finite.injEq]
  exact ⟨rfl, hfraction, rfl⟩

/-- Beyond the greatest exponent there is only infinity. -/
theorem unpack_pack_finite {m : Nat} {e : Int} (h : IsCanonical m e) (hm : 0 < m) :
    UnpackedFloat.unpack .binary64 (UnpackedFloat.pack .binary64 (.finite .positive m e hm)) =
      if e ≤ 971 then .finite .positive m e hm else .infinity .positive := by
  obtain ⟨hlt, hlowest, hlow⟩ := h
  have hbias : Format.binary64.exponentBias = 1023 := rfl
  have hscale : e + Format.binary64.exponentBias + (52 : Nat) = e + 1075 := by omega
  -- Either all fifty-three digits are there, or the exponent is the lowest and its field is zero.
  have hdigits : m.log2 + 1 = Format.binary64.mantissaBits ↔ 2 ^ 52 ≤ m := by
    rw [← Nat.le_log2 hm.ne']
    have := (Nat.log2_lt hm.ne').mpr hlt
    change m.log2 + 1 = 53 ↔ _
    omega
  rw [UnpackedFloat.pack]
  simp only [hscale, hdigits]
  by_cases he : e ≤ 971
  · rw [if_neg (by omega), if_pos he]
    by_cases hnormal : 2 ^ 52 ≤ m
    · rw [if_pos hnormal]
      exact unpack_pack_normal hm hlt hnormal hlowest he
    · obtain rfl : e = -1074 := hlow.resolve_right hnormal
      rw [if_neg hnormal]
      exact unpack_pack_subnormal hm (not_le.mp hnormal)
  · rw [if_pos (by omega), if_neg he]
    rfl

theorem IsCanonical.magnitude_lt_iff {m : Nat} {e : Int} (h : IsCanonical m e) :
    (m : Rat) * 2 ^ e < 2 ^ (1024 : Int) ↔ e ≤ 971 := by
  constructor
  · intro hlt
    by_contra he
    have hlow := h.pow_le_magnitude (by omega)
    have hpow := (zpow_lt_zpow_iff_right₀ one_lt_two).mp (hlow.trans_lt hlt)
    omega
  · intro he
    refine h.magnitude_lt_pow.trans_le (zpow_le_zpow_right₀ one_le_two ?_)
    omega

/-- What is rounded to less than the first power of two that no double reaches is a double. -/
theorem toRat?_pack {z : Rat} {u : UnpackedFloat} (h : IsRounded z u) :
    if z < 2 ^ (1024 : Int) then toRat? (.ofModel (Float.Model.pack u)) = some z
    else (Float.ofModel (Float.Model.pack u)).isInf := by
  have hrat : toRat? (.ofModel (Float.Model.pack u)) =
      rational? (UnpackedFloat.unpack .binary64 (UnpackedFloat.pack .binary64 u)) :=
    toRat?_eq_rational? _
  have hinf : (Float.ofModel (Float.Model.pack u)).isInf =
      (UnpackedFloat.unpack .binary64 (UnpackedFloat.pack .binary64 u)).isInf := rfl
  rw [hrat, hinf]
  cases u with
  | infinity sign => exact absurd h (by cases sign <;> exact id)
  | notANumber => exact absurd h id
  | zero sign =>
      cases sign with
      | positive =>
        obtain rfl : z = 0 := h
        rw [if_pos (by positivity)]
        rfl
      | negative => exact absurd h id
  | finite sign m e hm =>
      cases sign with
      | negative => exact absurd h id
      | positive =>
        obtain ⟨rfl, hcanonical⟩ := h
        rw [unpack_pack_finite hcanonical]
        simp only [hcanonical.magnitude_lt_iff]
        split_ifs
        · exact rational?_positive m e hm
        · rfl

/-- The quotient of two positive doubles is their exact quotient, rounded, or else infinite. -/
theorem toRat?_div {x y : Float} {a b : Rat} (hx : toRat? x = some a) (hy : toRat? y = some b)
    (ha : 0 < a) (hb : 0 < b) :
    ∃ z, RoundsTo (a / b) z ∧
      if z < 2 ^ (1024 : Int) then toRat? (x / y) = some z else (x / y).isInf := by
  rw [toRat?_eq_rational?] at hx hy
  obtain ⟨m, e, hm, hu, rfl⟩ := eq_finite_of_pos hx ha
  obtain ⟨n, f, hn, hv, rfl⟩ := eq_finite_of_pos hy hb
  obtain ⟨z, hround, hrounded⟩ := exists_isRounded_div hm hn e f
  refine ⟨z, hround, ?_⟩
  rw [← hu, ← hv] at hrounded
  exact toRat?_pack hrounded

end DriverAlerts.Number
