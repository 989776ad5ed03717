import DriverAlerts.Named
import DriverAlerts.Json.Reader
/-!
# Values from JSON

A decoder takes a JSON value to a value of a domain type or says why it cannot. Records are read by
the names of their fields: as an object whose members may come in any order, where members of other
names are ignored and a name may not be repeated, or as an array of the fields in their order. A field
that is not there is an error, unless the field may be null or has a default.
-/

namespace DriverAlerts.Json

/-- Why a text is not the JSON form of a value. -/
inductive Error where
  | malformed
  | expected (what : String)
  | missing (field : String)
  | repeated (field : String)
  | surplusItem
  | nameWithoutText
  deriving DecidableEq, Repr

def Error.message : Error → String
  | malformed => "the text is not JSON"
  | expected what => "expected " ++ what
  | missing field => "missing field '" ++ field ++ "'"
  | repeated field => "repeated field '" ++ field ++ "'"
  | surplusItem => "more items than fields"
  | nameWithoutText => "a member name is not text"

abbrev Decoder (α : Type) := Json → Except Error α

/-! ### Single values -/

def boolean : Decoder Bool
  | .bool b => .ok b
  | _ => .error (.expected "a boolean")

def text : Decoder String
  | .string (some t) => .ok t
  | _ => .error (.expected "a text")

/-- A natural number that is spelled as one and at most the limit. -/
def natural (limit : Nat) : Decoder Nat
  | .number n =>
    match n.natural? with
    | some k => if k ≤ limit then .ok k else .error (.expected "a smaller number")
    | none => .error (.expected "a natural number")
  | _ => .error (.expected "a number")

/-- A number within the range of doubles. -/
def double : Decoder Float
  | .number n =>
    match n.toFloat? with
    | some x => .ok x
    | none => .error (.expected "a number in range")
  | _ => .error (.expected "a number")

/-- A word, by its name or as an object whose only member has that name and no content. -/
def word (α : Type) [Named α] : Decoder α
  | .string (some name) | .object [(some name, .null)] =>
    match Named.ofName? name with
    | some w => .ok w
    | none => .error (.expected "a known word")
  | _ => .error (.expected "a word")

/-! ### Compound values -/

def nullable {α : Type} (decode : Decoder α) : Decoder (Option α)
  | .null => .ok none
  | value => some <$> decode value

def list {α : Type} (decode : Decoder α) : Decoder (List α)
  | .array items => items.mapM decode
  | _ => .error (.expected "an array")

/-- The members of an object, which all need names. -/
def namedMembers : List (Option String × Json) → Except Error (List (String × Json))
  | [] => .ok []
  | (some name, value) :: members => do return (name, value) :: (← namedMembers members)
  | (none, _) :: _ => .error .nameWithoutText

/-! ### Records -/

/-- What a record has for a field. -/
inductive Entry where
  | given (value : Json)
  /-- Nothing, in an object without a member of the name. -/
  | absent
  /-- Nothing, in an array that ends before the field. -/
  | cutOff
  deriving Repr

/-- The entries of a record, by field name. -/
abbrev Entries := List (String × Entry)

/-- The only member of a name. -/
def memberEntry (members : List (String × Json)) (name : String) : Except Error (String × Entry) :=
  match members.filter (·.1 == name) with
  | [] => .ok (name, .absent)
  | [(_, value)] => .ok (name, .given value)
  | _ => .error (.repeated name)

/-- The entries of fields against the items of an array. -/
def itemEntries : List String → List Json → Entries
  | [], _ => []
  | name :: names, [] => (name, .cutOff) :: itemEntries names []
  | name :: names, item :: items => (name, .given item) :: itemEntries names items

/-- Reads a value as a record with these fields. -/
def entries (names : List String) : Decoder Entries
  | .object members => do
    let members ← namedMembers members
    names.mapM (memberEntry members)
  | .array items =>
    if names.length < items.length then .error .surplusItem else .ok (itemEntries names items)
  | _ => .error (.expected "a record")

namespace Entries

variable {α : Type}

def entry (entries : Entries) (name : String) : Entry :=
  (entries.lookup name).getD .absent

/-- A field that has to be there. -/
def required (entries : Entries) (name : String) (decode : Decoder α) : Except Error α :=
  match entries.entry name with
  | .given value => decode value
  | _ => .error (.missing name)

/-- A field that may be null, and that an object may leave out. -/
def optional (entries : Entries) (name : String) (decode : Decoder α) : Except Error (Option α) :=
  match entries.entry name with
  | .given value => nullable decode value
  | .absent => .ok none
  | .cutOff => .error (.missing name)

/-- A field with a default. -/
def orElse (entries : Entries) (name : String) (default : α) (decode : Decoder α) :
    Except Error α :=
  match entries.entry name with
  | .given value => decode value
  | _ => .ok default

end Entries

/-- Decodes a text. -/
def decodeText {α : Type} (decode : Decoder α) (text : String) : Except Error α :=
  match ofText? text with
  | some value => decode value
  | none => .error .malformed

end DriverAlerts.Json
