import DriverAlerts.Json.Numeral
import DriverAlerts.Proofs.Number.Digit
/-!
# Numerals read back

A numeral is found again in front of whatever cannot go on with it. Each of its parts ends where the
next one starts: digits at the point or the letter, the fraction at the letter, and the whole at a
character that is neither of these nor a digit.
-/

namespace DriverAlerts.Numeral

open Number (Digit)
open Number.Digit (NoneAhead noneAhead_cons)

/-- No numeral goes on with the text. -/
def Ends (text : List Char) : Prop :=
  ∀ c ∈ text.head?, Digit.ofChar? c = none ∧ c ≠ '.' ∧ c ≠ 'e' ∧ c ≠ 'E'

theorem ends_nil : Ends [] := by
  intro c hc
  exact nomatch hc

theorem ends_cons {c : Char} (hc : Digit.ofChar? c = none ∧ c ≠ '.' ∧ c ≠ 'e' ∧ c ≠ 'E')
    (text : List Char) : Ends (c :: text) := by
  intro first hfirst
  obtain rfl : c = first := Option.some.inj hfirst
  exact hc

theorem Ends.noneAhead {text : List Char} (h : Ends text) : NoneAhead text :=
  fun c hc => (h c hc).1

/-- The digits of a number start with a digit. -/
theorem exists_spellDigits (n : Nat) :
    ∃ d : Digit, ∃ text, spellDigits (Digit.ofNat n) = d.toChar :: text := by
  cases hdigits : Digit.ofNat n with
  | nil => exact absurd hdigits (Digit.ofNat_ne_nil n)
  | cons d digits => exact ⟨d, _, rfl⟩

theorem scanSign_append (negative : Bool) (n : Nat) (rest : List Char) :
    scanSign (spellSign negative ++ (spellDigits (Digit.ofNat n) ++ rest)) =
      (negative, spellDigits (Digit.ofNat n) ++ rest) := by
  cases negative with
  | true => rfl
  | false =>
      obtain ⟨d, text, hdigits⟩ := exists_spellDigits n
      have hminus : ∀ d : Digit, d.toChar ≠ '-' := by decide
      rw [hdigits, spellSign, if_neg Bool.false_ne_true, List.nil_append, List.cons_append, scanSign]
      intro _ h
      exact hminus d (List.cons.inj h).1

theorem scanInteger_append (n : Nat) {rest : List Char} (hrest : NoneAhead rest) :
    scanInteger (spellDigits (Digit.ofNat n) ++ rest) = some (n, rest) := by
  rw [scanInteger, spellDigits, Digit.span_append _ hrest]
  have hvalue := Digit.toNat_ofNat n
  cases hdigits : Digit.ofNat n with
  | nil => exact absurd hdigits (Digit.ofNat_ne_nil n)
  | cons d digits =>
      rw [hdigits] at hvalue
      cases digits with
      | nil =>
          change 10 * 0 + d.val = n at hvalue
          simp only [← hvalue, Nat.mul_zero, Nat.zero_add]
      | cons d' digits =>
          have hd : ¬ d.val = 0 := Digit.head_ofNat_ne_zero hdigits (List.cons_ne_nil _ _)
          simp only [if_neg hd, hvalue]

theorem scanFraction_append (fraction : List Digit) {rest : List Char} (hrest : NoneAhead rest)
    (hpoint : ∀ c ∈ rest.head?, c ≠ '.') :
    scanFraction (spellFraction fraction ++ rest) = some (fraction, rest) := by
  cases fraction with
  | nil =>
      cases rest with
      | nil => rfl
      | cons c rest =>
          have hc : c ≠ '.' := hpoint c rfl
          simp [spellFraction, scanFraction, hc]
  | cons d fraction =>
      rw [spellFraction, List.isEmpty_cons, if_neg Bool.false_ne_true, List.cons_append, scanFraction,
        spellDigits, Digit.span_append _ hrest]

theorem scanPowerDigits_append (negative : Bool) (n : Nat) {rest : List Char}
    (hrest : NoneAhead rest) :
    scanPowerDigits negative (spellDigits (Digit.ofNat n) ++ rest) =
      some (some (if negative then -(n : Int) else n), rest) := by
  rw [scanPowerDigits, spellDigits, Digit.span_append _ hrest]
  have hvalue := Digit.toNat_ofNat n
  cases hdigits : Digit.ofNat n with
  | nil => exact absurd hdigits (Digit.ofNat_ne_nil n)
  | cons d digits =>
      rw [hdigits] at hvalue
      simp only [hvalue]

theorem scanPower_append (power : Option Int) {rest : List Char} (hrest : Ends rest) :
    scanPower (spellPower power ++ rest) = some (power, rest) := by
  cases power with
  | none =>
      cases rest with
      | nil => rfl
      | cons c rest =>
          obtain ⟨-, -, he, hE⟩ := hrest c rfl
          simp [spellPower, scanPower, he, hE]
  | some p =>
      -- The sign decides which digits are scanned, so it has to be known first.
      by_cases hp : p < 0
      · have habs : -(p.natAbs : Int) = p := by omega
        simp only [spellPower, if_pos hp, List.cons_append, scanPower, true_or, if_true,
          scanPowerDigits_append true _ hrest.noneAhead, habs]
      · have habs : (p.natAbs : Int) = p := by omega
        simp only [spellPower, if_neg hp, List.cons_append, scanPower, true_or, if_true,
          scanPowerDigits_append false _ hrest.noneAhead, Bool.false_eq_true, if_false, habs]

theorem head?_spellPower_append {power : Option Int} {rest : List Char} {c : Char}
    (hc : c ∈ (spellPower power ++ rest).head?) : c = 'e' ∨ c ∈ rest.head? := by
  cases power with
  | none => exact .inr hc
  | some p => exact .inl (Option.some.inj hc).symm

theorem scan_spell_append (n : Numeral) {rest : List Char} (hrest : Ends rest) :
    scan (n.spell ++ rest) = some (n, rest) := by
  have hpower : NoneAhead (spellPower n.power ++ rest) := by
    intro c hc
    rcases head?_spellPower_append hc with rfl | hc
    · decide
    · exact hrest.noneAhead c hc
  have hpoint : ∀ c ∈ (spellPower n.power ++ rest).head?, c ≠ '.' := by
    intro c hc
    rcases head?_spellPower_append hc with rfl | hc
    · decide
    · exact (hrest c hc).2.1
  have hfraction : NoneAhead (spellFraction n.fraction ++ (spellPower n.power ++ rest)) := by
    rw [spellFraction]
    split
    · exact hpower
    · exact noneAhead_cons (by decide)
  rw [spell, List.append_assoc, List.append_assoc, List.append_assoc, scan, scanSign_append]
  simp only [scanInteger_append _ hfraction, scanFraction_append _ hpower hpoint,
    scanPower_append _ hrest, bind, Option.bind, pure]

theorem exists_spell (n : Numeral) :
    ∃ c text, n.spell = c :: text ∧ (c = '-' ∨ ∃ d : Digit, c = d.toChar) := by
  obtain ⟨d, text, hdigits⟩ := exists_spellDigits n.integer
  rw [spell, spellSign, hdigits]
  cases n.negative with
  | true => exact ⟨'-', _, rfl, .inl rfl⟩
  | false => exact ⟨d.toChar, _, rfl, .inr ⟨d, rfl⟩⟩

end DriverAlerts.Numeral
