import DriverAlerts.Json.Basic
/-!
# Writing a JSON text

A value is written as its tokens. The compact layout puts nothing between them; the pretty layout puts
each item and each member on a line of its own, two blanks deeper than what holds it, and a blank
behind each colon. Arrays and objects without content are written as two adjacent brackets in both.
-/

namespace DriverAlerts.Json

/-- What is written between tokens. -/
structure Layout where
  /-- In front of an item, a member or a closing bracket, given how deep it stands. -/
  line : Nat → List Char
  /-- Behind a colon. -/
  gap : List Char

namespace Layout

def compact : Layout :=
  ⟨fun _ => [], []⟩

def pretty : Layout :=
  ⟨fun depth => '\n' :: List.replicate (2 * depth) ' ', [' ']⟩

end Layout

mutual

/-- A value that stands at a depth. -/
def spell (layout : Layout) (depth : Nat) : Json → List Char
  | .null => Token.null.spell
  | .bool b => (Token.bool b).spell
  | .number n => (Token.number n).spell
  | .string text => (Token.string text).spell
  | .array [] => Token.openArray.spell ++ Token.closeArray.spell
  | .array (item :: items) =>
    Token.openArray.spell ++ layout.line (depth + 1) ++ spell layout (depth + 1) item ++
      spellItems layout (depth + 1) items ++ layout.line depth ++ Token.closeArray.spell
  | .object [] => Token.openObject.spell ++ Token.closeObject.spell
  | .object ((name, value) :: members) =>
    Token.openObject.spell ++ layout.line (depth + 1) ++ (Token.string name).spell ++
      Token.colon.spell ++ layout.gap ++ spell layout (depth + 1) value ++
      spellMembers layout (depth + 1) members ++ layout.line depth ++ Token.closeObject.spell

/-- The items behind the first. -/
def spellItems (layout : Layout) (depth : Nat) : List Json → List Char
  | [] => []
  | item :: items =>
    Token.comma.spell ++ layout.line depth ++ spell layout depth item ++
      spellItems layout depth items

/-- The members behind the first. -/
def spellMembers (layout : Layout) (depth : Nat) : List (Option String × Json) → List Char
  | [] => []
  | (name, value) :: members =>
    Token.comma.spell ++ layout.line depth ++ (Token.string name).spell ++ Token.colon.spell ++
      layout.gap ++ spell layout depth value ++ spellMembers layout depth members

end

/-- A value on one line. -/
def compact (value : Json) : String :=
  String.ofList (spell .compact 0 value)

/-- A value with a line for each item and member. -/
def pretty (value : Json) : String :=
  String.ofList (spell .pretty 0 value)

end DriverAlerts.Json
