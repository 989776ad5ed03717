import DriverAlerts.Number.Digit
import DriverAlerts.Text.Blank
import DriverAlerts.Timestamp.Basic
/-!
# Timestamps as text

A timestamp is written as date, `T`, time and `Z`. A year of up to four digits has exactly four, any
other year has a sign, and the fraction of a second has three, six or nine digits, or none at all,
whichever are the fewest that say it exactly.

Reading is more liberal. Blanks may stand in front of numbers and marks and at the end, numbers may
lack leading zeros, a blank or a small letter may stand for `T` and a small letter for `Z`, and instead
of universal time a clock that is ahead of it or behind it by less than a day may be shown. Digits of
the fraction after the ninth are dropped. An offset is required, and only blanks may follow it.
-/

namespace DriverAlerts.Timestamp

open Number (Digit)

/-! ### Writing -/

/-- The last digits of a number, with leading zeros. -/
def spellDigits (count n : Nat) : List Char :=
  match count with
  | 0 => []
  | count + 1 => spellDigits count (n / 10) ++ [Char.ofNat (48 + n % 10)]

def spellYear (year : Int) : List Char :=
  let n := year.natAbs
  if 0 ≤ year ∧ year ≤ 9999 then spellDigits 4 n
  else
    let digits := if n ≤ 9999 then spellDigits 4 n else (Digit.ofNat n).map Digit.toChar
    (if year < 0 then '-' else '+') :: digits

def spellFraction (nanosecond : Nat) : List Char :=
  if nanosecond = 0 then []
  else if nanosecond % 1000000 = 0 then '.' :: spellDigits 3 (nanosecond / 1000000)
  else if nanosecond % 1000 = 0 then '.' :: spellDigits 6 (nanosecond / 1000)
  else '.' :: spellDigits 9 nanosecond

def spell (t : Timestamp) : List Char :=
  spellYear t.date.year ++ '-' :: spellDigits 2 t.date.month ++ '-' :: spellDigits 2 t.date.day ++
    'T' :: spellDigits 2 t.hour ++ ':' :: spellDigits 2 t.minute ++ ':' :: spellDigits 2 t.second ++
    spellFraction t.nanosecond ++ ['Z']

def toText (t : Timestamp) : String :=
  String.ofList t.spell

/-! ### Reading -/

def skipBlanks : List Char → List Char
  | [] => []
  | c :: text => if Text.isBlank c then skipBlanks text else c :: text

/-- The digits at the start of a text, at most the given number, and the text behind them. -/
def readDigits : Nat → List Char → List Digit × List Char
  | 0, text => ([], text)
  | _ + 1, [] => ([], [])
  | count + 1, c :: text =>
    match Digit.ofChar? c with
    | some d => let (digits, rest) := readDigits count text; (d :: digits, rest)
    | none => ([], c :: text)

/-- A number of at least one and at most the given number of digits, with blanks in front. -/
def readNumber (count : Nat) (text : List Char) : Option (Nat × List Char) :=
  match readDigits count (skipBlanks text) with
  | ([], _) => none
  | (digits, rest) => some (Digit.toNat digits, rest)

/-- A mark with blanks in front. -/
def readMark (c : Char) (text : List Char) : Option (List Char) :=
  match skipBlanks text with
  | [] => none
  | d :: rest => if c = d then some rest else none

/-- A number behind a sign may have any count of digits. -/
def readSignedYear (negative : Bool) (text : List Char) : Option (Int × List Char) :=
  match Digit.span text with
  | ([], _) => none
  | (digits, rest) =>
    let n : Int := Digit.toNat digits
    some (if negative then -n else n, rest)

def readYear (text : List Char) : Option (Int × List Char) :=
  match skipBlanks text with
  | '-' :: text => readSignedYear true text
  | '+' :: text => readSignedYear false text
  | text => (readNumber 4 text).map fun (n, rest) => ((n : Int), rest)

def readDate (text : List Char) : Option (Date × List Char) := do
  let (year, text) ← readYear text
  let (month, text) ← readNumber 2 (← readMark '-' text)
  let (day, text) ← readNumber 2 (← readMark '-' text)
  return (⟨year, month, day⟩, text)

def readSeparator : List Char → Option (List Char)
  | c :: text => if c = 'T' ∨ c = 't' ∨ c = ' ' then some text else none
  | [] => none

/-- The nanoseconds of the digits behind a point, of which there is at least one. -/
def readFraction (text : List Char) : Option (Nat × List Char) :=
  match text with
  | '.' :: text =>
    match readDigits 9 text with
    | ([], _) => none
    | (digits, rest) =>
      let zeros := List.replicate (9 - digits.length) Digit.zero
      some (Digit.toNat (digits ++ zeros), (Digit.span rest).2)
  | text => some (0, text)

/-- The blanks and colons between the hours and the minutes of an offset. -/
def skipColons : List Char → List Char
  | [] => []
  | c :: text => if c = ':' ∨ Text.isBlank c then skipColons text else c :: text

/-- Exactly two digits. -/
def readTwoDigits : List Char → Option (Nat × List Char)
  | a :: b :: text => do
    return (10 * (← Digit.ofChar? a).val + (← Digit.ofChar? b).val, text)
  | _ => none

/-- The hours and minutes of an offset below a day. -/
def readOffsetMinutes (text : List Char) : Option (Nat × List Char) := do
  let (hours, text) ← readTwoDigits text
  let (minutes, text) ← readTwoDigits (skipColons text)
  if minutes < 60 ∧ hours < 24 then some (hours * 60 + minutes, text) else none

/-- A letter, in lower case if it is one of the basic alphabet. -/
def lower (c : Char) : Char :=
  if 'A' ≤ c ∧ c ≤ 'Z' then Char.ofNat (c.toNat + 32) else c

/-- How many minutes the clock is ahead of universal time. -/
def readOffset (text : List Char) : Option (Int × List Char) :=
  match skipBlanks text with
  | c :: text =>
    if lower c = 'z' then some (0, text)
    else if c = '+' then (readOffsetMinutes text).map fun (n, rest) => ((n : Int), rest)
    else if c = '-' ∨ c = '\u2212' then
      (readOffsetMinutes text).map fun (n, rest) => (-(n : Int), rest)
    else
      match text with
      | d :: e :: rest => if [c, d, e].map lower = ['u', 't', 'c'] then some (0, rest) else none
      | _ => none
  | [] => none

/-- A number below a bound. -/
def below (bound n : Nat) : Option (Fin bound) :=
  if h : n < bound then some ⟨n, h⟩ else none

/-- The timestamp of a whole text. -/
def ofText? (text : String) : Option Timestamp := do
  let (date, text) ← readDate text.toList
  let (hour, text) ← readNumber 2 (← readSeparator text)
  let (minute, text) ← readNumber 2 (← readMark ':' text)
  let (second, text) ← readNumber 2 (← readMark ':' text)
  let (nanosecond, text) ← readFraction text
  let (ahead, text) ← readOffset text
  if (skipBlanks text).isEmpty then
    ofLocal? date (← below 24 hour) (← below 60 minute) (← below 61 second)
      (← below 1000000000 nanosecond) ahead
  else none

end DriverAlerts.Timestamp
