/-!
# Decimal digits

Numerals are handled as lists of digits, most significant first. The digits of a natural number are
written without a leading zero, and zero is the single digit `0`.
-/

namespace DriverAlerts.Number

abbrev Digit := Fin 10

namespace Digit

def zero : Digit := ⟨0, by decide⟩

def ofChar? (c : Char) : Option Digit :=
  if h : 48 ≤ c.toNat ∧ c.toNat < 58 then some ⟨c.toNat - 48, by omega⟩ else none

def toChar (d : Digit) : Char :=
  Char.ofNat (48 + d.val)

/-- The digits of a natural number. -/
def ofNat (n : Nat) : List Digit :=
  if n < 10 then [⟨n % 10, Nat.mod_lt n (by decide)⟩]
  else ofNat (n / 10) ++ [⟨n % 10, Nat.mod_lt n (by decide)⟩]
termination_by n
decreasing_by omega

/-- The number that digits are written for. -/
def toNat (digits : List Digit) : Nat :=
  digits.foldl (fun n d => 10 * n + d.val) 0

/-- The digits at the start of a text, and the text behind them. -/
def span : List Char → List Digit × List Char
  | [] => ([], [])
  | c :: text =>
    match ofChar? c with
    | some d => let (digits, rest) := span text; (d :: digits, rest)
    | none => ([], c :: text)

end Digit

end DriverAlerts.Number
