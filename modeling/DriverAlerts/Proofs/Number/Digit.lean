import DriverAlerts.Number.Digit
import DriverAlerts.Number.Hex
import Mathlib.Data.List.Induction
import Mathlib.Tactic.Ring
/-!
# Digits read back

Digits are found again in front of any character that is not a digit, and the digits of a number are
those of no other. A number of more than one digit does not start with a zero, which is how its digits
differ from other digits of the same value.
-/

namespace DriverAlerts.Number

namespace Digit

/-- The text does not start with a digit. -/
def NoneAhead (text : List Char) : Prop :=
  ∀ c ∈ text.head?, ofChar? c = none

theorem noneAhead_cons {c : Char} {text : List Char} (hc : ofChar? c = none) :
    NoneAhead (c :: text) := by
  intro first hfirst
  obtain rfl : c = first := Option.some.inj hfirst
  exact hc

@[simp] theorem ofChar?_toChar (d : Digit) : ofChar? d.toChar = some d := by
  revert d
  decide

theorem span_append (digits : List Digit) {rest : List Char} (hrest : NoneAhead rest) :
    span (digits.map toChar ++ rest) = (digits, rest) := by
  induction digits with
  | nil =>
      cases rest with
      | nil => rfl
      | cons c rest => rw [List.map_nil, List.nil_append, span, hrest c rfl]
  | cons d digits ih => rw [List.map_cons, List.cons_append, span, ofChar?_toChar, ih]

theorem toNat_append (left right : List Digit) :
    toNat (left ++ right) = toNat left * 10 ^ right.length + toNat right := by
  induction right using List.reverseRecOn with
  | nil => simp [toNat]
  | append_singleton right d ih =>
      have hlast : ∀ digits : List Digit, toNat (digits ++ [d]) = 10 * toNat digits + d.val := by
        intro digits
        rw [toNat, List.foldl_append, List.foldl_cons, List.foldl_nil, toNat]
      rw [← List.append_assoc, hlast, hlast, ih, List.length_append, List.length_singleton,
        Nat.pow_succ]
      ring

theorem ofNat_ne_nil (n : Nat) : ofNat n ≠ [] := by
  rw [ofNat]
  split <;> simp

@[simp] theorem toNat_ofNat (n : Nat) : toNat (ofNat n) = n := by
  fun_induction ofNat n with
  | case1 n hn => exact Nat.zero_add _ |>.trans (Nat.mod_eq_of_lt hn)
  | case2 n hn ih =>
      rw [toNat_append, ih]
      change n / 10 * 10 ^ 1 + (10 * 0 + n % 10) = n
      omega

/-- Only a single digit can be a zero in front. -/
theorem head_ofNat_ne_zero {n : Nat} {d : Digit} {digits : List Digit} (h : ofNat n = d :: digits)
    (hdigits : digits ≠ []) : d.val ≠ 0 := by
  fun_induction ofNat n generalizing digits with
  | case1 n hn => exact absurd (List.cons.inj h).2.symm hdigits
  | case2 n hn ih =>
      cases hfront : ofNat (n / 10) with
      | nil => exact absurd hfront (ofNat_ne_nil _)
      | cons first front =>
          rw [hfront, List.cons_append] at h
          obtain ⟨rfl, rfl⟩ := List.cons.inj h
          by_cases hsingle : front = []
          · subst hsingle
            have hvalue := toNat_ofNat (n / 10)
            rw [hfront] at hvalue
            change 10 * 0 + first.val = n / 10 at hvalue
            omega
          · exact ih hfront hsingle

end Digit

theorem Hex.value?_digit {n : Nat} (hn : n < 16) : Hex.value? (Hex.digit n) = some n := by
  revert n
  decide

end DriverAlerts.Number
