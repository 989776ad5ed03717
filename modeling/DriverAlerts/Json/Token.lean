import DriverAlerts.Json.Numeral
import DriverAlerts.Json.Quoted
/-!
# Tokens of a JSON text

A JSON text is a sequence of tokens with blanks between them: six punctuation marks, three words,
numerals and texts in quotes. The tokens of a text are found from left to right, each by its first
character, and a text that is no sequence of tokens has none. How tokens may follow one another is
decided later.
-/

namespace DriverAlerts

inductive Token where
  | openArray | closeArray | openObject | closeObject | comma | colon
  | null
  | bool (b : Bool)
  | number (n : Numeral)
  /-- A text in quotes; none if it names no text. -/
  | string (text : Option String)
  deriving DecidableEq, Repr

namespace Token

/-- The four characters that may stand between tokens. -/
def isBlank (c : Char) : Bool :=
  c = ' ' ∨ c = '\n' ∨ c = '\t' ∨ c = '\r'

/-- The rest of a text behind an expected word. -/
def dropWord? : List Char → List Char → Option (List Char)
  | [], text => some text
  | _ :: _, [] => none
  | w :: word, c :: text => if w = c then dropWord? word text else none

/-- The token that starts with a character that is no blank, and the text behind it. -/
def scan (first : Char) (text : List Char) : Option (Token × List Char) :=
  match first with
  | '[' => some (openArray, text)
  | ']' => some (closeArray, text)
  | '\x7b' => some (openObject, text)
  | '\x7d' => some (closeObject, text)
  | ',' => some (comma, text)
  | ':' => some (colon, text)
  | 'n' => (dropWord? ['u', 'l', 'l'] text).map (null, ·)
  | 't' => (dropWord? ['r', 'u', 'e'] text).map (bool true, ·)
  | 'f' => (dropWord? ['a', 'l', 's', 'e'] text).map (bool false, ·)
  | '"' => (Quoted.scan text).map fun (pieces, rest) =>
      (string ((Quoted.text? pieces).map String.ofList), rest)
  | c => (Numeral.scan (c :: text)).map fun (n, rest) => (number n, rest)

/-! ### Scanning consumes -/

theorem length_dropWord? {word text rest : List Char} (h : dropWord? word text = some rest) :
    rest.length ≤ text.length := by
  fun_induction dropWord? word text with grind

theorem length_span (text : List Char) :
    (Number.Digit.span text).2.length + (Number.Digit.span text).1.length = text.length := by
  fun_induction Number.Digit.span text with grind

theorem length_scanSign (text : List Char) : (Numeral.scanSign text).2.length ≤ text.length := by
  unfold Numeral.scanSign
  split <;> simp

theorem length_scanInteger {text rest : List Char} {n : Nat}
    (h : Numeral.scanInteger text = some (n, rest)) : rest.length < text.length := by
  have := length_span text
  unfold Numeral.scanInteger at h
  split at h <;> grind

theorem length_scanFraction {text rest : List Char} {digits : List Number.Digit}
    (h : Numeral.scanFraction text = some (digits, rest)) : rest.length ≤ text.length := by
  unfold Numeral.scanFraction at h
  split at h
  next text =>
    have := length_span text
    split at h <;> grind
  next => grind

theorem length_scanPowerDigits {text rest : List Char} {negative : Bool} {p : Option Int}
    (h : Numeral.scanPowerDigits negative text = some (p, rest)) : rest.length ≤ text.length := by
  have := length_span text
  unfold Numeral.scanPowerDigits at h
  split at h <;> grind

theorem length_scanPower {text rest : List Char} {p : Option Int}
    (h : Numeral.scanPower text = some (p, rest)) : rest.length ≤ text.length := by
  unfold Numeral.scanPower at h
  split at h
  · split at h
    · split at h
      all_goals
        have := length_scanPowerDigits h
        grind
    · grind
  · grind

theorem length_scanNumeral {text rest : List Char} {n : Numeral}
    (h : Numeral.scan text = some (n, rest)) : rest.length < text.length := by
  have hsign := length_scanSign text
  simp only [Numeral.scan, bind, Option.bind_eq_some_iff, Prod.exists, pure] at h
  obtain ⟨_, _, hinteger, _, _, hfraction, _, _, hpower, h⟩ := h
  have := length_scanInteger hinteger
  have := length_scanFraction hfraction
  have := length_scanPower hpower
  grind

theorem length_of_scan {first : Char} {text rest : List Char} {token : Token}
    (h : scan first text = some (token, rest)) : rest.length ≤ text.length := by
  unfold scan at h
  split at h
  case h_7 | h_8 | h_9 =>
    simp only [Option.map_eq_some_iff, Prod.mk.injEq] at h
    obtain ⟨_, hword, _, rfl⟩ := h
    exact length_dropWord? hword
  case h_10 =>
    simp only [Option.map_eq_some_iff, Prod.mk.injEq] at h
    obtain ⟨_, htext, _, rfl⟩ := h
    exact Nat.le_of_lt (Quoted.length_of_scan htext)
  case h_11 =>
    simp only [Option.map_eq_some_iff, Prod.mk.injEq] at h
    obtain ⟨_, hnumeral, _, rfl⟩ := h
    exact Nat.le_of_lt_succ (length_scanNumeral hnumeral)
  all_goals grind

/-- The tokens of a text. -/
def ofText? (text : List Char) : Option (List Token) :=
  match text with
  | [] => some []
  | c :: text =>
    if isBlank c then ofText? text
    else
      match _h : scan c text with
      | none => none
      | some (token, rest) => (ofText? rest).map (token :: ·)
termination_by text.length
decreasing_by
  · simp
  · have := length_of_scan _h
    simp
    omega

/-! ### Spelling -/

/-- A token as it is written. A text that nothing names is written as an empty one. -/
def spell : Token → List Char
  | openArray => ['[']
  | closeArray => [']']
  | openObject => ['\x7b']
  | closeObject => ['\x7d']
  | comma => [',']
  | colon => [':']
  | null => ['n', 'u', 'l', 'l']
  | bool true => ['t', 'r', 'u', 'e']
  | bool false => ['f', 'a', 'l', 's', 'e']
  | number n => n.spell
  | string text => Quoted.spell (text.getD "").toList

end Token

end DriverAlerts
