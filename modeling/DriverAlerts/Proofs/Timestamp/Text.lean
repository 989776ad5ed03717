import DriverAlerts.Timestamp.Text
import DriverAlerts.Proofs.Number.Digit
import Mathlib.Data.Fintype.Basic
import Mathlib.Tactic.FinCases
/-!
# Timestamps read back

Every part of a written timestamp has as many digits as its reader takes at most, or ends before a
character that is no digit, so each reader stops where the next part starts. A clock in universal time
shows the moment itself.
-/

namespace DriverAlerts.Timestamp

open Number (Digit)
open Number.Digit (NoneAhead noneAhead_cons)

/-! ### Digits -/

theorem exists_digits (count n : Nat) :
    ∃ digits : List Digit, spellDigits count n = digits.map Digit.toChar ∧ digits.length = count ∧
      (n < 10 ^ count → Digit.toNat digits = n) := by
  induction count generalizing n with
  | zero => exact ⟨[], rfl, rfl, fun hn => (Nat.lt_one_iff.mp hn).symm⟩
  | succ count ih =>
      obtain ⟨digits, hspell, hlength, hvalue⟩ := ih (n / 10)
      refine ⟨digits ++ [⟨n % 10, Nat.mod_lt n (by decide)⟩], ?_, ?_, ?_⟩
      · rw [spellDigits, hspell, List.map_append]
        rfl
      · rw [List.length_append, hlength, List.length_singleton]
      · intro hn
        rw [Nat.pow_succ] at hn
        rw [Digit.toNat_append, hvalue (by omega)]
        change n / 10 * 10 ^ 1 + (10 * 0 + n % 10) = n
        omega

theorem readDigits_append {digits : List Digit} {count : Nat} (hcount : digits.length ≤ count)
    {rest : List Char} (hrest : digits.length = count ∨ NoneAhead rest) :
    readDigits count (digits.map Digit.toChar ++ rest) = (digits, rest) := by
  induction digits generalizing count with
  | nil =>
      cases count with
      | zero => rfl
      | succ count =>
          have hnone : NoneAhead rest := hrest.resolve_left nofun
          cases rest with
          | nil => rfl
          | cons c rest => rw [List.map_nil, List.nil_append, readDigits, hnone c rfl]
  | cons d digits ih =>
      cases count with
      | zero => exact absurd hcount (Nat.not_succ_le_zero _)
      | succ count =>
          rw [List.length_cons, Nat.add_le_add_iff_right] at hcount
          rw [List.length_cons, Nat.add_right_cancel_iff] at hrest
          rw [List.map_cons, List.cons_append, readDigits, Digit.ofChar?_toChar,
            ih hcount hrest]

theorem skipBlanks_cons {c : Char} (hc : Text.isBlank c = false) (text : List Char) :
    skipBlanks (c :: text) = c :: text := by
  rw [skipBlanks, if_neg (Bool.eq_false_iff.mp hc)]

theorem isBlank_toChar : ∀ d : Digit, Text.isBlank d.toChar = false := by
  decide

/-- All the digits that may be read are there, so what follows does not matter. -/
theorem readNumber_append {count n : Nat} (hcount : count ≠ 0) (hn : n < 10 ^ count)
    (rest : List Char) : readNumber count (spellDigits count n ++ rest) = some (n, rest) := by
  obtain ⟨digits, hspell, hlength, hvalue⟩ := exists_digits count n
  have hread : readDigits count (digits.map Digit.toChar ++ rest) = (digits, rest) :=
    readDigits_append hlength.le (.inl hlength)
  rw [readNumber, hspell]
  cases digits with
  | nil => exact absurd hlength.symm hcount
  | cons d digits =>
      rw [List.map_cons, List.cons_append] at hread ⊢
      simp only [skipBlanks_cons (isBlank_toChar d), hread, hvalue hn]

theorem readMark_cons {c : Char} (hc : Text.isBlank c = false) (text : List Char) :
    readMark c (c :: text) = some text := by
  simp only [readMark, skipBlanks_cons hc, if_true]

/-! ### Dates -/

theorem readSignedYear_append (negative : Bool) {digits : List Digit} (hdigits : digits ≠ [])
    {rest : List Char} (hrest : NoneAhead rest) :
    readSignedYear negative (digits.map Digit.toChar ++ rest) =
      some (if negative then -(Digit.toNat digits : Int) else Digit.toNat digits, rest) := by
  rw [readSignedYear, Digit.span_append _ hrest]
  cases digits with
  | nil => exact absurd rfl hdigits
  | cons d digits => rfl

theorem exists_yearDigits (n : Nat) :
    ∃ digits : List Digit, digits ≠ [] ∧ Digit.toNat digits = n ∧
      (if n ≤ 9999 then spellDigits 4 n else (Digit.ofNat n).map Digit.toChar) =
        digits.map Digit.toChar := by
  split
  · obtain ⟨digits, hspell, hlength, hvalue⟩ := exists_digits 4 n
    exact ⟨digits, List.ne_nil_of_length_pos (by omega), hvalue (by omega), hspell⟩
  · exact ⟨Digit.ofNat n, Digit.ofNat_ne_nil n, Digit.toNat_ofNat n, rfl⟩

theorem readYear_toChar (d : Digit) (text : List Char) :
    readYear (d.toChar :: text) =
      (readNumber 4 (d.toChar :: text)).map fun (n, rest) => ((n : Int), rest) := by
  fin_cases d <;> rfl

theorem readYear_append (year : Int) (rest : List Char) :
    readYear (spellYear year ++ '-' :: rest) = some (year, '-' :: rest) := by
  have hrest : NoneAhead ('-' :: rest) := noneAhead_cons (by decide)
  rw [spellYear]
  split
  · next hyear =>
    -- Without a sign the year has four digits, the most that are read.
    have hn : year.natAbs < 10 ^ 4 := by omega
    have hread := readNumber_append (by decide) hn ('-' :: rest)
    have habs : (year.natAbs : Int) = year := by omega
    obtain ⟨digits, hspell, hlength, -⟩ := exists_digits 4 year.natAbs
    rw [hspell] at hread ⊢
    cases digits with
    | nil => exact absurd hlength (by decide)
    | cons d digits =>
        rw [List.map_cons, List.cons_append] at hread ⊢
        rw [readYear_toChar, hread]
        simp only [Option.map_some, habs]
  · next hyear =>
    -- With a sign it has any number of digits, and the mark behind it ends them.
    obtain ⟨digits, hdigits, hvalue, hspell⟩ := exists_yearDigits year.natAbs
    rw [hspell, List.cons_append]
    by_cases hnegative : year < 0
    · have habs : -(year.natAbs : Int) = year := by omega
      rw [if_pos hnegative]
      change readSignedYear true _ = _
      rw [readSignedYear_append true hdigits hrest, if_pos rfl, hvalue, habs]
    · have habs : (year.natAbs : Int) = year := by omega
      rw [if_neg hnegative]
      change readSignedYear false _ = _
      rw [readSignedYear_append false hdigits hrest, if_neg Bool.false_ne_true, hvalue, habs]

theorem daysInMonth_le (year : Int) (month : Nat) : Date.daysInMonth year month ≤ 31 := by
  rw [Date.daysInMonth]
  grind

theorem readDate_append {date : Date} (hdate : date.Exists) (rest : List Char) :
    readDate (spellYear date.year ++ '-' :: (spellDigits 2 date.month ++ '-' ::
      (spellDigits 2 date.day ++ rest))) = some (date, rest) := by
  obtain ⟨-, -, -, hmonth, -, hday⟩ := hdate
  have hlast := daysInMonth_le date.year date.month
  have htwo : 2 ≠ 0 := by decide
  simp only [readDate, readYear_append, readMark_cons (c := '-') rfl,
    readNumber_append htwo (show date.month < 10 ^ 2 by omega),
    readNumber_append htwo (show date.day < 10 ^ 2 by omega), bind, Option.bind, pure]

/-! ### Times -/

theorem toNat_zeros (count : Nat) : Digit.toNat (List.replicate count Digit.zero) = 0 := by
  induction count with
  | zero => rfl
  | succ count ih => rw [List.replicate_succ', Digit.toNat_append, ih]; rfl

theorem readFraction_digits {count n : Nat} (hpositive : 0 < count) (hnine : count ≤ 9)
    (hn : n < 10 ^ count) :
    readFraction ('.' :: (spellDigits count n ++ ['Z'])) =
      some (n * 10 ^ (9 - count), ['Z']) := by
  obtain ⟨digits, hspell, hlength, hvalue⟩ := exists_digits count n
  have hread : readDigits 9 (digits.map Digit.toChar ++ ['Z']) = (digits, ['Z']) :=
    readDigits_append (by omega) (.inr (noneAhead_cons (by decide)))
  have hzeros : Digit.toNat (digits ++ List.replicate (9 - digits.length) Digit.zero) =
      n * 10 ^ (9 - count) := by
    rw [Digit.toNat_append, toNat_zeros, List.length_replicate, hlength, hvalue hn, Nat.add_zero]
  rw [readFraction, hspell, hread]
  cases digits with
  | nil => exact absurd hlength (Nat.ne_of_lt hpositive)
  | cons d digits =>
      simp only [hzeros]
      rfl

/-- The fewest digits that say a fraction exactly are read as that fraction. -/
theorem readFraction_append (nanosecond : Fin 1000000000) :
    readFraction (spellFraction nanosecond ++ ['Z']) = some (nanosecond.val, ['Z']) := by
  have hn := nanosecond.isLt
  rw [spellFraction]
  split
  · next hzero => rw [hzero]; rfl
  split
  · next hmillis =>
    rw [List.cons_append, readFraction_digits (by decide) (by decide) (by omega)]
    simp only [Option.some.injEq, Prod.mk.injEq, and_true]
    omega
  split
  · next hmicros =>
    rw [List.cons_append, readFraction_digits (by decide) (by decide) (by omega)]
    simp only [Option.some.injEq, Prod.mk.injEq, and_true]
    omega
  · rw [List.cons_append, readFraction_digits (by decide) (by decide) (by omega), Nat.sub_self,
      Nat.pow_zero, Nat.mul_one]

theorem below_val {bound : Nat} (n : Fin bound) : below bound n.val = some n := by
  rw [below, dif_pos n.isLt]

/-- In universal time a clock shows the moment itself. -/
theorem ofLocal?_zero (t : Timestamp) :
    ofLocal? t.date t.hour t.minute t.second t.nanosecond 0 = some t := by
  have hhour := t.hour.isLt
  have hminute := t.minute.isLt
  have hcheck : t.date.check = some t.date := if_pos t.date_exists
  have hlow : ¬ (t.hour.val : Int) * 60 + t.minute.val - 0 < 0 := by omega
  have hhigh : (t.hour.val : Int) * 60 + t.minute.val - 0 < 1440 := by omega
  have hminutes : (((t.hour.val : Int) * 60 + t.minute.val - 0) % 1440).toNat =
      t.hour.val * 60 + t.minute.val := by omega
  have hsplitHour : Fin.ofNat 24 ((t.hour.val * 60 + t.minute.val) / 60) = t.hour := by
    apply Fin.ext
    simp only [Fin.ofNat]
    omega
  have hsplitMinute : Fin.ofNat 60 (t.hour.val * 60 + t.minute.val) = t.minute := by
    apply Fin.ext
    simp only [Fin.ofNat]
    omega
  simp only [ofLocal?, hcheck, bind, Option.bind, if_neg hlow, if_pos hhigh, hminutes, hsplitHour,
    hsplitMinute, dif_pos t.date_exists]

theorem ofText?_toText (t : Timestamp) : ofText? t.toText = some t := by
  have htwo : 2 ≠ 0 := by decide
  have hhour : t.hour.val < 10 ^ 2 := by omega
  have hminute : t.minute.val < 10 ^ 2 := by omega
  have hsecond : t.second.val < 10 ^ 2 := by omega
  have hseparator : ∀ text, readSeparator ('T' :: text) = some text := fun _ => rfl
  have hoffset : readOffset ['Z'] = some (0, []) := by decide
  simp only [ofText?, toText, String.toList_ofList, spell, List.append_assoc, List.cons_append,
    readDate_append t.date_exists, hseparator, readNumber_append htwo hhour,
    readMark_cons (c := ':') rfl, readNumber_append htwo hminute, readNumber_append htwo hsecond,
    readFraction_append, hoffset, below_val, bind, Option.bind, skipBlanks, List.isEmpty_nil,
    if_true]
  exact ofLocal?_zero t

end DriverAlerts.Timestamp
