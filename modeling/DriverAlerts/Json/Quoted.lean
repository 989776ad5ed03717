import DriverAlerts.Number.Hex
/-!
# Text in quotes

Between its quotes a JSON text spells characters, either as they are or behind a backslash. An escape
of four hexadecimal digits names a unit of sixteen bits, and a character outside the basic plane is
two of them, a high and a low surrogate. A surrogate without its partner is good syntax and names no
text, so scanning the quotes and reading the text are two steps: a reader that skips a value takes
only the first.

What is written escapes the quote, the backslash and the control characters, and nothing else.
-/

namespace DriverAlerts.Quoted

open Number

/-- What stands between quotes: characters, and the units that are spelled in hexadecimal. -/
inductive Piece where
  | char (c : Char)
  | unit (n : Nat)
  deriving DecidableEq, Repr

/-- The unit of four hexadecimal digits. -/
def unit? (a b c d : Char) : Option Nat := do
  return 4096 * (← Hex.value? a) + 256 * (← Hex.value? b) + 16 * (← Hex.value? c) + (← Hex.value? d)

/-! ### Scanning -/

/-- The character that a letter behind a backslash stands for. -/
def unescape? : Char → Option Char
  | '"' => some '"'
  | '\\' => some '\\'
  | '/' => some '/'
  | 'b' => some '\x08'
  | 'f' => some '\x0c'
  | 'n' => some '\n'
  | 'r' => some '\r'
  | 't' => some '\t'
  | _ => none

/-- The pieces up to the closing quote, and the text behind it. Control characters may not stand
between quotes as they are. -/
def scan : List Char → Option (List Piece × List Char)
  | [] => none
  | '"' :: rest => some ([], rest)
  | '\\' :: 'u' :: a :: b :: c :: d :: rest => do
    let n ← unit? a b c d
    let (pieces, rest) ← scan rest
    return (.unit n :: pieces, rest)
  | '\\' :: c :: rest => do
    let c ← unescape? c
    let (pieces, rest) ← scan rest
    return (.char c :: pieces, rest)
  | c :: rest =>
    if c = '\\' ∨ c.toNat < 32 then none
    else do
      let (pieces, rest) ← scan rest
      return (.char c :: pieces, rest)

/-! ### Reading -/

def isHighSurrogate (n : Nat) : Bool :=
  0xD800 ≤ n ∧ n < 0xDC00

def isLowSurrogate (n : Nat) : Bool :=
  0xDC00 ≤ n ∧ n < 0xE000

/-- The character that two surrogates name together. -/
def pairChar (high low : Nat) : Char :=
  Char.ofNat (0x10000 + 1024 * (high - 0xD800) + (low - 0xDC00))

/-- The text that pieces name; none if a surrogate stands alone. -/
def text? : List Piece → Option (List Char)
  | [] => some []
  | .char c :: pieces => (text? pieces).map (c :: ·)
  | .unit high :: .unit low :: pieces =>
    if isHighSurrogate high then
      if isLowSurrogate low then (text? pieces).map (pairChar high low :: ·) else none
    else if isLowSurrogate high then none
    else (text? (.unit low :: pieces)).map (Char.ofNat high :: ·)
  | .unit n :: pieces =>
    if isHighSurrogate n ∨ isLowSurrogate n then none
    else (text? pieces).map (Char.ofNat n :: ·)

/-! ### Writing -/

/-- A character as it is written between quotes. -/
def escape (c : Char) : List Char :=
  match c with
  | '"' => ['\\', '"']
  | '\\' => ['\\', '\\']
  | '\x08' => ['\\', 'b']
  | '\x0c' => ['\\', 'f']
  | '\n' => ['\\', 'n']
  | '\r' => ['\\', 'r']
  | '\t' => ['\\', 't']
  | c =>
    if c.toNat < 32 then ['\\', 'u', '0', '0', Hex.digit (c.toNat / 16), Hex.digit (c.toNat % 16)]
    else [c]

/-- A text with its quotes. -/
def spell (text : List Char) : List Char :=
  '"' :: text.flatMap escape ++ ['"']

/-! ### Scanning consumes -/

theorem length_of_scan {text rest : List Char} {pieces : List Piece}
    (h : scan text = some (pieces, rest)) : rest.length < text.length := by
  fun_induction scan text generalizing pieces rest with
  | case1 => grind
  | case2 => grind
  | case3 a b c d text ih =>
    simp only [bind, Option.bind_eq_some_iff, pure] at h
    grind
  | case4 c text _ ih =>
    simp only [bind, Option.bind_eq_some_iff, pure] at h
    grind
  | case5 => grind
  | case6 c text _ _ _ ih =>
    simp only [bind, Option.bind_eq_some_iff, pure] at h
    grind

end DriverAlerts.Quoted
