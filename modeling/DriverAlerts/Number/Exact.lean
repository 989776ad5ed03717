/-!
# The exact value of a double

Thresholds and printed digits depend on the number that a double stands for, not on how the machine
rounds it. A finite double is a sign, a natural significand and a power of two, read off its sixty-four
bits, and that triple is a rational number. All rounding in this library is rounding of that rational.
-/

namespace DriverAlerts.Number

/-- A finite double: `± significand · 2 ^ exponent`. -/
structure Binary where
  negative : Bool
  significand : Nat
  exponent : Int
  deriving DecidableEq, Repr

/-- A natural power of the base, or its reciprocal. -/
def power (base : Nat) (exponent : Int) : Rat :=
  if 0 ≤ exponent then mkRat (base.pow exponent.toNat) 1
  else mkRat 1 (base.pow (-exponent).toNat)

namespace Binary

/-- The significands of one power of two are as many as there are fractions of fifty-two bits. -/
def fractions : Nat := 0x10000000000000

/-- Eleven bits of a double tell its power of two. -/
def scales : Nat := 2048

/-- Decodes the bits: no result for infinities and for what is not a number. -/
def ofFloat? (x : Float) : Option Binary :=
  let bits : Nat := x.toBits.toNat
  let negative := bits / fractions / scales == 1
  let scale : Nat := bits / fractions % scales
  let fraction : Nat := bits % fractions
  if scale = 2047 then none
  else if scale = 0 then some ⟨negative, fraction, -1074⟩
  else some ⟨negative, fraction + fractions, (scale : Int) - 1075⟩

/-- The distance from zero. -/
def magnitude (b : Binary) : Rat :=
  (b.significand : Rat) * power 2 b.exponent

def value (b : Binary) : Rat :=
  if b.negative then -b.magnitude else b.magnitude

end Binary

/-- The rational number that a finite double stands for. -/
def toRat? (x : Float) : Option Rat :=
  (Binary.ofFloat? x).map Binary.value

/-- The nearest integer; a half goes away from zero. -/
def nearest (q : Rat) : Int :=
  if q < 0 then -(-q + 1 / 2).floor else (q + 1 / 2).floor

/-- The nearest integer within the signed 64-bit range. What is not a number counts as zero. -/
def nearestInt64 (x : Float) : Int :=
  match toRat? x with
  | some q => max Int64.minValue.toInt (min (nearest q) Int64.maxValue.toInt)
  | none => if 0 < x then Int64.maxValue.toInt else if x < 0 then Int64.minValue.toInt else 0

end DriverAlerts.Number
