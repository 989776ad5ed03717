import DriverAlerts.Json.Quoted
import DriverAlerts.Proofs.Number.Digit
/-!
# Quoted text read back

Every character is written as one piece: a control character without a letter of its own as the unit
of its number, and any other as itself. No such unit is a surrogate, so the pieces name the text that
was written, and the closing quote ends it wherever the text stands.
-/

namespace DriverAlerts.Quoted

open Number

theorem unit?_digits {n : Nat} (hn : n < 32) :
    unit? '0' '0' (Hex.digit (n / 16)) (Hex.digit (n % 16)) = some n := by
  have hzero : Hex.value? '0' = some 0 := by decide
  have hhigh : Hex.value? (Hex.digit (n / 16)) = some (n / 16) := Hex.value?_digit (by omega)
  have hlow : Hex.value? (Hex.digit (n % 16)) = some (n % 16) := Hex.value?_digit (by omega)
  simp only [unit?, hzero, hhigh, hlow, bind, Option.bind, pure, Option.some.injEq]
  omega

theorem scan_letter {letter c : Char} (hletter : unescape? letter = some c) (text : List Char) :
    scan ('\\' :: letter :: text) = (scan text).map fun (pieces, rest) => (.char c :: pieces, rest) := by
  have hu : letter ≠ 'u' := by
    rintro rfl
    exact nomatch hletter
  rw [scan, hletter]
  · cases scan text <;> rfl
  · intro _ _ _ _ _ h
    exact absurd h hu

theorem scan_char {c : Char} (hquote : c ≠ '"') (hbackslash : c ≠ '\\') (hc : ¬ c.toNat < 32)
    (text : List Char) :
    scan (c :: text) = (scan text).map fun (pieces, rest) => (.char c :: pieces, rest) := by
  rw [scan, if_neg (not_or.mpr ⟨hbackslash, hc⟩)]
  · cases scan text <;> rfl
  · exact hquote
  · intro _ _ _ _ _ h
    exact absurd h hbackslash
  · intro _ _ h
    exact absurd h hbackslash

/-- A written character is scanned as itself or, if it is a control character, as its number. -/
theorem scan_escape_append (c : Char) (text : List Char) :
    (scan (escape c ++ text) = (scan text).map fun (pieces, rest) => (.char c :: pieces, rest)) ∨
      (c.toNat < 32 ∧ scan (escape c ++ text) =
        (scan text).map fun (pieces, rest) => (.unit c.toNat :: pieces, rest)) := by
  unfold escape
  split
  case h_8 hquote hbackslash _ _ _ _ _ =>
    -- The characters without a letter of their own.
    by_cases hc : c.toNat < 32
    · refine .inr ⟨hc, ?_⟩
      rw [if_pos hc]
      simp only [List.cons_append, List.nil_append, scan, unit?_digits hc]
      cases scan text <;> rfl
    · left
      rw [if_neg hc]
      exact scan_char hquote hbackslash hc text
  all_goals exact .inl (scan_letter rfl text)

/-- A unit below the surrogates names its character whatever follows. -/
theorem text?_unit_cons {n : Nat} (hn : n < 0xD800) (pieces : List Piece) :
    text? (.unit n :: pieces) = (text? pieces).map (Char.ofNat n :: ·) := by
  have hhigh : isHighSurrogate n = false := by simp [isHighSurrogate]; omega
  have hlow : isLowSurrogate n = false := by simp [isLowSurrogate]; omega
  cases pieces with
  | nil => simp [text?, hhigh, hlow]
  | cons piece pieces => cases piece <;> simp [text?, hhigh, hlow]

theorem scan_flatMap_escape_append (text rest : List Char) :
    ∃ pieces, scan (text.flatMap escape ++ '"' :: rest) = some (pieces, rest) ∧
      text? pieces = some text := by
  induction text with
  | nil => exact ⟨[], rfl, rfl⟩
  | cons c text ih =>
      obtain ⟨pieces, hscan, htext⟩ := ih
      rw [List.flatMap_cons, List.append_assoc]
      rcases scan_escape_append c (text.flatMap escape ++ '"' :: rest) with hchar | ⟨hc, hunit⟩
      · refine ⟨.char c :: pieces, ?_, ?_⟩
        · rw [hchar, hscan, Option.map_some]
        · rw [text?, htext, Option.map_some]
      · refine ⟨.unit c.toNat :: pieces, ?_, ?_⟩
        · rw [hunit, hscan, Option.map_some]
        · rw [text?_unit_cons (by omega), htext, Char.ofNat_toNat, Option.map_some]

end DriverAlerts.Quoted
