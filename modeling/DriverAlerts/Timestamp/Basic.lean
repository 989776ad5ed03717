/-!
# Timestamps

A timestamp is a moment in universal time: a day of the Gregorian calendar, continued before its
introduction, and a time of that day down to the nanosecond. Any minute may have a sixty-first second.
Years go some way beyond four digits in both directions, and a day outside them does not exist.
-/

namespace DriverAlerts

/-- A day of the Gregorian calendar. -/
structure Date where
  year : Int
  month : Nat
  day : Nat
  deriving DecidableEq, Repr

namespace Date

def firstYear : Int := -262143

def lastYear : Int := 262142

def isLeapYear (year : Int) : Bool :=
  year % 4 = 0 ∧ (year % 100 ≠ 0 ∨ year % 400 = 0)

def daysInMonth (year : Int) (month : Nat) : Nat :=
  if month = 2 then if isLeapYear year then 29 else 28
  else if month = 4 ∨ month = 6 ∨ month = 9 ∨ month = 11 then 30
  else 31

/-- The day is one of the calendar. -/
def Exists (date : Date) : Prop :=
  firstYear ≤ date.year ∧ date.year ≤ lastYear ∧ 1 ≤ date.month ∧ date.month ≤ 12 ∧
    1 ≤ date.day ∧ date.day ≤ daysInMonth date.year date.month

instance (date : Date) : Decidable date.Exists := by
  unfold Exists
  infer_instance

def check (date : Date) : Option Date :=
  if date.Exists then some date else none

/-- The day after: the next one of the month, the first of the next month or the first of the next
year, whichever exists. -/
def next? (date : Date) : Option Date :=
  check { date with day := date.day + 1 } <|>
    check { date with month := date.month + 1, day := 1 } <|>
    check ⟨date.year + 1, 1, 1⟩

/-- The day before. -/
def previous? (date : Date) : Option Date :=
  check { date with day := date.day - 1 } <|>
    check { date with
      month := date.month - 1, day := daysInMonth date.year (date.month - 1) } <|>
    check ⟨date.year - 1, 12, 31⟩

end Date

/-- A moment in universal time. -/
structure Timestamp where
  date : Date
  hour : Fin 24
  minute : Fin 60
  second : Fin 61
  nanosecond : Fin 1000000000
  date_exists : date.Exists
  deriving DecidableEq, Repr

namespace Timestamp

/-- The moment at which a clock shows a date and a time, being some minutes ahead of universal time. -/
def ofLocal? (date : Date) (hour : Fin 24) (minute : Fin 60) (second : Fin 61)
    (nanosecond : Fin 1000000000) (ahead : Int) : Option Timestamp := do
  let date ← date.check
  let minutes := (hour.val : Int) * 60 + minute.val - ahead
  let date ←
    if minutes < 0 then date.previous?
    else if minutes < 1440 then some date
    else date.next?
  let minutes := (minutes % 1440).toNat
  if h : date.Exists then
    some ⟨date, Fin.ofNat 24 (minutes / 60), Fin.ofNat 60 minutes, second, nanosecond, h⟩
  else none

/-- The start of the year 1970. -/
def epoch : Timestamp :=
  ⟨⟨1970, 1, 1⟩, 0, 0, 0, 0, by decide⟩

end Timestamp

end DriverAlerts
