import DriverAlerts.Number.Layout
/-!
# Numerals

A numeral of a JSON text is kept as it is spelled: a sign, an integer part without leading zeros, the
digits behind the point and a power of ten. Readers decide what they want from it. A whole number is a
numeral with neither point nor power, and a minus sign makes it something else, zero included. A
double is computed from at most the digits that fit sixty-four bits, scaled once by a power of ten, so
it can miss the nearest double by a unit in the last place.
-/

namespace DriverAlerts

open Number

/-- A number as a JSON text spells it. -/
structure Numeral where
  negative : Bool
  integer : Nat
  /-- The digits behind the point; none if there is no point. -/
  fraction : List Digit
  /-- The power of ten, if one is written. -/
  power : Option Int
  deriving DecidableEq, Repr

namespace Numeral

/-! ### Spelling -/

def spellSign (negative : Bool) : List Char :=
  if negative then ['-'] else []

def spellDigits (digits : List Digit) : List Char :=
  digits.map Digit.toChar

def spellFraction (fraction : List Digit) : List Char :=
  if fraction.isEmpty then [] else '.' :: spellDigits fraction

/-- A power is written with its sign. -/
def spellPower : Option Int → List Char
  | none => []
  | some p => 'e' :: (if p < 0 then '-' else '+') :: spellDigits (Digit.ofNat p.natAbs)

def spell (n : Numeral) : List Char :=
  spellSign n.negative ++ spellDigits (Digit.ofNat n.integer) ++ spellFraction n.fraction ++
    spellPower n.power

/-! ### Scanning -/

/-- The sign in front of a numeral, true for a minus sign. -/
def scanSign : List Char → Bool × List Char
  | '-' :: text => (true, text)
  | text => (false, text)

/-- An integer part: a single zero, or digits that do not start with one. -/
def scanInteger (text : List Char) : Option (Nat × List Char) :=
  match Digit.span text with
  | ([], _) => none
  | ([d], rest) => some (d.val, rest)
  | (d :: ds, rest) => if d.val = 0 then none else some (Digit.toNat (d :: ds), rest)

/-- A point is followed by at least one digit. -/
def scanFraction : List Char → Option (List Digit × List Char)
  | '.' :: text =>
    match Digit.span text with
    | ([], _) => none
    | (digits, rest) => some (digits, rest)
  | text => some ([], text)

def scanPowerDigits (negative : Bool) (text : List Char) : Option (Option Int × List Char) :=
  match Digit.span text with
  | ([], _) => none
  | (digits, rest) =>
    let power : Int := Digit.toNat digits
    some (some (if negative then -power else power), rest)

/-- The power is `e` or `E`, possibly a sign, and at least one digit. -/
def scanPower : List Char → Option (Option Int × List Char)
  | c :: text =>
    if c = 'e' ∨ c = 'E' then
      match text with
      | '-' :: text => scanPowerDigits true text
      | '+' :: text => scanPowerDigits false text
      | text => scanPowerDigits false text
    else some (none, c :: text)
  | [] => some (none, [])

/-- The numeral at the start of a text, and the text behind it. -/
def scan (text : List Char) : Option (Numeral × List Char) := do
  let (negative, text) := scanSign text
  let (integer, text) ← scanInteger text
  let (fraction, text) ← scanFraction text
  let (power, text) ← scanPower text
  return (⟨negative, integer, fraction, power⟩, text)

/-! ### Whole numbers -/

def ofNat (n : Nat) : Numeral :=
  ⟨false, n, [], none⟩

/-- The natural number that is spelled, if the numeral is spelled as one. -/
def natural? (n : Numeral) : Option Nat :=
  if n.negative ∨ n.fraction ≠ [] ∨ n.power ≠ none then none else some n.integer

/-! ### Doubles -/

/-- The largest significand that is kept. -/
def significandLimit : Nat := UInt64.size - 1

/-- Appends digits to a significand until the limit is reached, and returns the digits left over. -/
def absorb (significand : Nat) : List Digit → Nat × List Digit
  | [] => (significand, [])
  | d :: digits =>
    if 10 * significand + d.val ≤ significandLimit then absorb (10 * significand + d.val) digits
    else (significand, d :: digits)

/-- The powers of ten are doubles up to this exponent. -/
def powerLimit : Nat := 308

def powerOfTen (n : Nat) : Float :=
  Float.ofScientific 1 false n

/-- Multiplies by a power of ten, in one step where the power is a double and else in several.
No result if the product is infinite. -/
def scale (x : Float) (exponent : Int) : Option Float :=
  if exponent.natAbs ≤ powerLimit then
    if 0 ≤ exponent then
      let product := x * powerOfTen exponent.natAbs
      if product.isInf then none else some product
    else some (x / powerOfTen exponent.natAbs)
  else if x == 0 then some x
  else if 0 ≤ exponent then none
  else scale (x / powerOfTen powerLimit) (exponent + powerLimit)
termination_by exponent.natAbs
decreasing_by simp only [powerLimit] at *; omega

/-- The double that a numeral is read as; none if it is out of range. Digits of the integer part that
do not fit the significand count as powers of ten, and those behind the point are dropped. -/
def toFloat? (n : Numeral) : Option Float := do
  let (whole, surplus) := absorb 0 (Digit.ofNat n.integer)
  let (significand, dropped) := absorb whole n.fraction
  let places : Int := n.fraction.length - dropped.length
  let exponent := (surplus.length : Int) - places + n.power.getD 0
  let distance ← scale (UInt64.ofNat significand).toFloat exponent
  return if n.negative then -distance else distance

/-- The decimal exponents that are written positionally. -/
def isPositional (magnitude : Int) : Bool :=
  -5 ≤ magnitude ∧ magnitude ≤ 15

/-- The fewest digits that stand for a finite double, the even neighbour of two equally near ones.
There is a digit behind the point unless a power is written. -/
def ofFloat? (x : Float) : Option Numeral :=
  (Binary.ofFloat? x).map fun b =>
    let d := b.shortest .even
    if isPositional d.magnitude then
      let (integer, fraction) := d.positional
      ⟨b.negative, integer, if fraction.isEmpty then [Digit.zero] else fraction, none⟩
    else
      let (integer, fraction) := d.scientific
      ⟨b.negative, integer, fraction, some d.magnitude⟩

end Numeral

end DriverAlerts
