import DriverAlerts.Number.Shortest
/-!
# Decimals written out

A decimal has a positional form, an integer part and the digits behind the point, and a scientific
form, one digit, the digits behind it and a power of ten. Messages write every finite double
positionally, however long that is, leave the point out when nothing stands behind it, and take the
greater of two equally near decimals.
-/

namespace DriverAlerts.Number

namespace Decimal

def digits (d : Decimal) : List Digit :=
  Digit.ofNat d.coefficient

/-- The power of ten of the first digit. -/
def magnitude (d : Decimal) : Int :=
  d.digits.length + d.exponent - 1

/-- The integer part and the digits behind the point. -/
def positional (d : Decimal) : Nat × List Digit :=
  if 0 ≤ d.exponent then (d.coefficient * Nat.pow 10 d.exponent.toNat, [])
  else
    let places := (-d.exponent).toNat
    let padded := List.replicate (places + 1 - d.digits.length) Digit.zero ++ d.digits
    let (whole, behind) := padded.splitAt (padded.length - places)
    (Digit.toNat whole, behind)

/-- The first digit and the digits behind it. -/
def scientific (d : Decimal) : Nat × List Digit :=
  match d.digits with
  | [] => (0, [])
  | first :: behind => (first.val, behind)

end Decimal

/-- How a message writes a double. -/
def display (x : Float) : String :=
  match Binary.ofFloat? x with
  | none => if 0 < x then "inf" else if x < 0 then "-inf" else "NaN"
  | some b =>
    let (whole, behind) := (b.shortest .up).positional
    let sign := if b.negative then "-" else ""
    let point := if behind.isEmpty then "" else "."
    sign ++ toString whole ++ point ++ String.ofList (behind.map Digit.toChar)

end DriverAlerts.Number
