import DriverAlerts.Proofs.Json.Numeral
import DriverAlerts.Proofs.Json.Quoted
import DriverAlerts.Json.Token
import Mathlib.Data.Fintype.Basic
import Mathlib.Tactic.FinCases
/-!
# Tokens read back

A written token is found again at the start of a text, whatever follows, with two exceptions. A
numeral needs something behind it that does not go on with it, and a text that nothing names is
written as an empty one, so it comes back as that. Blanks in front of a token change nothing.
-/

namespace DriverAlerts.Token

/-- The token is read as what it was written for. -/
def Legible (token : Token) : Prop :=
  token ≠ string none

/-- The token can be told from what follows. -/
def EndsBefore (rest : List Char) : Token → Prop
  | number _ => Numeral.Ends rest
  | _ => True

theorem endsBefore_of_ends {rest : List Char} (h : Numeral.Ends rest) (token : Token) :
    token.EndsBefore rest := by
  cases token with
  | number _ => exact h
  | _ => trivial

theorem ends_cons_of_isBlank {c : Char} (hc : isBlank c) (rest : List Char) :
    Numeral.Ends (c :: rest) := by
  simp only [isBlank, decide_eq_true_eq] at hc
  rcases hc with rfl | rfl | rfl | rfl <;> exact Numeral.ends_cons (by decide) rest

/-! ### One token -/

theorem dropWord?_append (word text : List Char) : dropWord? word (word ++ text) = some text := by
  induction word with
  | nil => rfl
  | cons c word ih => rw [List.cons_append, dropWord?, if_pos rfl, ih]

/-- What starts like a numeral is scanned as one. -/
theorem scan_of_numeral {c : Char} (hc : c = '-' ∨ ∃ d : Number.Digit, c = d.toChar)
    (text : List Char) :
    isBlank c = false ∧
      scan c text = (Numeral.scan (c :: text)).map fun (n, rest) => (number n, rest) := by
  rcases hc with rfl | ⟨d, rfl⟩
  · exact ⟨rfl, rfl⟩
  · fin_cases d <;> exact ⟨rfl, rfl⟩

/-- The first character of a token decides, and what it starts is scanned to its end. -/
theorem exists_scan_spell_append {token : Token} (hlegible : token.Legible) {rest : List Char}
    (hends : token.EndsBefore rest) :
    ∃ c text, token.spell ++ rest = c :: text ∧ isBlank c = false ∧
      scan c text = some (token, rest) := by
  cases token with
  | null =>
      refine ⟨'n', _, rfl, rfl, ?_⟩
      exact congrArg (Option.map _) (dropWord?_append ['u', 'l', 'l'] rest)
  | bool b =>
      cases b with
      | true =>
          refine ⟨'t', _, rfl, rfl, ?_⟩
          exact congrArg (Option.map _) (dropWord?_append ['r', 'u', 'e'] rest)
      | false =>
          refine ⟨'f', _, rfl, rfl, ?_⟩
          exact congrArg (Option.map _) (dropWord?_append ['a', 'l', 's', 'e'] rest)
  | number n =>
      obtain ⟨c, text, hspell, hc⟩ := n.exists_spell
      obtain ⟨hblank, hscan⟩ := scan_of_numeral hc (text ++ rest)
      refine ⟨c, text ++ rest, ?_, hblank, ?_⟩
      · rw [spell, hspell, List.cons_append]
      · rw [hscan, ← List.cons_append, ← hspell, Numeral.scan_spell_append n hends, Option.map_some]
  | string text =>
      cases text with
      | none => exact absurd rfl hlegible
      | some text =>
          obtain ⟨pieces, hscan, htext⟩ := Quoted.scan_flatMap_escape_append text.toList rest
          refine ⟨'"', text.toList.flatMap Quoted.escape ++ '"' :: rest, ?_, rfl, ?_⟩
          · rw [spell, Option.getD_some, Quoted.spell, List.cons_append, List.cons_append,
              List.append_assoc, List.singleton_append]
          · simp only [scan, hscan, Option.map_some, htext, String.ofList_toList]
  | _ => exact ⟨_, rest, rfl, rfl, rfl⟩

/-! ### Tokens in a text -/

@[simp] theorem ofText?_nil : ofText? [] = some [] := by
  rw [ofText?]

theorem ofText?_cons_of_isBlank {c : Char} (hc : isBlank c) (text : List Char) :
    ofText? (c :: text) = ofText? text := by
  rw [ofText?, if_pos hc]

theorem ofText?_blanks_append {blanks : List Char} (hblanks : ∀ c ∈ blanks, isBlank c)
    (text : List Char) : ofText? (blanks ++ text) = ofText? text := by
  induction blanks with
  | nil => rfl
  | cons c blanks ih =>
      rw [List.forall_mem_cons] at hblanks
      rw [List.cons_append, ofText?_cons_of_isBlank hblanks.1, ih hblanks.2]

theorem ofText?_spell_append (token : Token) (hlegible : token.Legible) {rest : List Char}
    (hends : token.EndsBefore rest) :
    ofText? (token.spell ++ rest) = (ofText? rest).map (token :: ·) := by
  obtain ⟨c, text, hspell, hblank, hscan⟩ := exists_scan_spell_append hlegible hends
  rw [hspell, ofText?, if_neg (Bool.eq_false_iff.mp hblank)]
  split
  · next hnone => exact absurd (hnone.symm.trans hscan) (Option.some_ne_none _).symm
  · next hsome =>
    obtain ⟨rfl, rfl⟩ := Prod.mk.inj (Option.some.inj (hsome.symm.trans hscan))
    rfl

end DriverAlerts.Token
