import DriverAlerts.Json.Token
/-!
# JSON values

A value keeps what its text says: members stay in their order and may repeat a name, numerals keep
their spelling, and a text whose escapes name no text is present without one. What a repeated member
or an odd numeral means is for the reader of a value to decide.
-/

namespace DriverAlerts

inductive Json where
  | null
  | bool (b : Bool)
  | number (n : Numeral)
  | string (text : Option String)
  | array (items : List Json)
  | object (members : List (Option String × Json))
  deriving Repr, Inhabited

namespace Json

def ofString (text : String) : Json :=
  string (some text)

def ofNat (n : Nat) : Json :=
  number (.ofNat n)

/-- A double as a number; what is not finite has none and becomes null. -/
def ofFloat (x : Float) : Json :=
  match Numeral.ofFloat? x with
  | some n => number n
  | none => null

/-- An object with the given members. -/
def record (members : List (String × Json)) : Json :=
  object (members.map fun (name, value) => (some name, value))

end Json

end DriverAlerts
