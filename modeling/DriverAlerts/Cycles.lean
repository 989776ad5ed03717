import DriverAlerts.Number.Exact
/-!
# Control cycles

The control loop runs at a fixed period, and the engine counts time in cycles of that period. Seconds
become cycles here and nowhere else: the double of the seconds is divided by the double of the period,
and what that quotient stands for is rounded as an exact number. Counts stop at their greatest value
and never wrap.
-/

namespace DriverAlerts

/-- A count of control cycles. -/
abbrev Cycles := UInt32

namespace Cycles

/-- The greatest count. -/
def limit : Nat := UInt32.size - 1

/-- The count nearest to a natural number. -/
def saturate (n : Nat) : Cycles :=
  UInt32.ofNat (min n limit)

/-- One cycle more, as long as there is a greater count. -/
def next (n : Cycles) : Cycles :=
  saturate (n.toNat + 1)

/-- The control period in seconds. -/
def period : Float := 0.01

/-- A quotient of seconds and period counts as whole when it is nearer than this to a whole number,
because the division itself can miss by as much. -/
def tolerance : Float := 1e-9

/-- The least whole number that a quotient has not passed by the tolerance or more. -/
def snappedCeiling (quotient slack : Rat) : Int :=
  let whole := Number.nearest quotient
  let distance := if quotient < whole then whole - quotient else quotient - whole
  if distance < slack then whole else quotient.ceil

/-- Applies a rounding to the quotient of seconds and period. Durations that are not finite or not
positive take no cycles, and a quotient beyond the doubles takes the greatest count. -/
def ofSeconds (round : Rat → Int) (seconds : Float) : Cycles :=
  if seconds.isFinite ∧ 0 < seconds then
    match Number.toRat? (seconds / period) with
    | some quotient => saturate (round quotient).toNat
    | none => saturate limit
  else 0

/-- The cycles for which something is shown: the nearest whole number. -/
def duration (seconds : Float) : Cycles :=
  ofSeconds Number.nearest seconds

/-- The consecutive cycles that cover a delay. -/
def required (seconds : Float) : Cycles :=
  ofSeconds (fun quotient => snappedCeiling quotient ((Number.toRat? tolerance).getD 0)) seconds

/-- A soft disable that is younger than the window, counting the current cycle, has no grace period
left to spend and is shown as an immediate disable. -/
def escalates (age : Cycles) (window : Float) : Bool :=
  age < required window

end Cycles

end DriverAlerts
