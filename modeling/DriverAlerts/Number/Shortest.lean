import DriverAlerts.Number.Digit
import DriverAlerts.Number.Exact
/-!
# The shortest decimal of a double

A double stands for every real number that rounds to it, an interval around its value that holds its
ends exactly when the significand is even. Of all decimals in the interval the ones with the fewest
digits are wanted, and of those the nearest to the value. A grid of decimals with step `10 ^ k` meets
the interval only if one of the two grid points next to the value does, so it is enough to look at
those two, on the coarsest grid first. Two neighbours can be equally near, and whoever writes the
decimal says which of them is then taken.
-/

namespace DriverAlerts.Number

/-- The number `coefficient · 10 ^ exponent`. -/
structure Decimal where
  coefficient : Nat
  exponent : Int
  deriving DecidableEq, Repr

namespace Decimal

def value (d : Decimal) : Rat :=
  (d.coefficient : Rat) * power 10 d.exponent

end Decimal

/-- Which of two equally near decimals is written. -/
inductive Tie where
  /-- The one with the greater coefficient. -/
  | up
  /-- The one with the even coefficient. -/
  | even
  deriving DecidableEq, Repr

/-- Whether the grid point below is written, `above` being the part of a step that lies above it. -/
def Tie.keepsBelow (tie : Tie) (below : Nat) (above : Rat) : Bool :=
  if above = 1 / 2 then tie = .even ∧ below % 2 = 0 else above < 1 / 2

namespace Binary

/-- A distance from zero that still rounds to the double. The double below is half as far away when the
significand is the least one of its power of two. -/
def roundsTo (b : Binary) (distance : Rat) : Bool :=
  let unit := power 2 (b.exponent - 2)
  let below := if b.significand = fractions ∧ -1074 < b.exponent then 1 else 2
  let low := ((4 * b.significand - below : Nat) : Rat) * unit
  let high := ((4 * b.significand + 2 : Nat) : Rat) * unit
  if b.significand % 2 = 0 then low ≤ distance ∧ distance ≤ high
  else low < distance ∧ distance < high

/-- The nearer of the two neighbours on the grid of step `10 ^ k` that round to the double. -/
def onGrid? (b : Binary) (tie : Tie) (k : Int) : Option Decimal :=
  let quotient := b.magnitude / power 10 k
  let below := quotient.floor.toNat
  let near : Decimal := ⟨below, k⟩
  let far : Decimal := ⟨below + 1, k⟩
  match b.roundsTo near.value, b.roundsTo far.value with
  | true, true => if tie.keepsBelow below (quotient - below) then some near else some far
  | true, false => some near
  | false, true => some far
  | false, false => none

/-- The first hit on the grids `k`, `k - 1`, …; the last one is taken without a test. -/
def search (b : Binary) (tie : Tie) : Nat → Int → Decimal
  | 0, k => ⟨(nearest (b.magnitude / power 10 k)).toNat, k⟩
  | grids + 1, k =>
    match b.onGrid? tie k with
    | some d => d
    | none => b.search tie grids (k - 1)

/-- The shortest decimal that rounds to the double, without its sign. The first grid is coarser than
the value, and seventeen digits always suffice. -/
def shortest (b : Binary) (tie : Tie) : Decimal :=
  if b.significand = 0 then ⟨0, 0⟩
  else
    let bits : Int := b.significand.log2 + b.exponent + 1
    b.search tie 24 (bits * 1233 / 4096 + 2)

end Binary

end DriverAlerts.Number
