import DriverAlerts.Json.Basic
/-!
# Reading a JSON text

The tokens of a text are consumed one by one. What has been opened and not yet closed stands on a
stack, innermost first, each entry with the items or members read so far, latest first. So a text may
be nested to any depth, and the reader is a function of the tokens alone.
-/

namespace DriverAlerts.Json

/-- A value that is not closed yet. -/
inductive Frame where
  | items (done : List Json)
  | members (done : List (Option String × Json))
  /-- An object whose latest member has a name and waits for its value. -/
  | named (done : List (Option String × Json)) (name : Option String)
  deriving Repr

/-- What may come next. -/
inductive Expected where
  /-- A value. -/
  | value
  /-- A value or the end of an empty array. -/
  | item
  /-- A name or the end of an empty object. -/
  | member
  /-- A name. -/
  | name
  | colon
  /-- A comma or the end of what is open. -/
  | separator
  deriving DecidableEq, Repr

/-- How far a text has been read. -/
inductive Progress where
  | reading (stack : List Frame) (expected : Expected)
  | done (value : Json)
  deriving Repr

namespace Progress

def start : Progress :=
  reading [] .value

/-- A value is complete: it is delivered to what is open around it. -/
def deliver (value : Json) : List Frame → Option Progress
  | [] => some (done value)
  | .items before :: stack => some (reading (.items (value :: before) :: stack) .separator)
  | .named before name :: stack =>
    some (reading (.members ((name, value) :: before) :: stack) .separator)
  | .members _ :: _ => none

/-- A value starts with this token. -/
def begin (stack : List Frame) : Token → Option Progress
  | .null => deliver .null stack
  | .bool b => deliver (.bool b) stack
  | .number n => deliver (.number n) stack
  | .string text => deliver (.string text) stack
  | .openArray => some (reading (.items [] :: stack) .item)
  | .openObject => some (reading (.members [] :: stack) .member)
  | _ => none

/-- The innermost open value ends with this token. -/
def close : List Frame → Token → Option Progress
  | .items before :: stack, .closeArray => deliver (.array before.reverse) stack
  | .members before :: stack, .closeObject => deliver (.object before.reverse) stack
  | _, _ => none

/-- The name of a member. -/
def name : List Frame → Token → Option Progress
  | .members before :: stack, .string text => some (reading (.named before text :: stack) .colon)
  | _, _ => none

/-- Another item or member follows. -/
def more : List Frame → Option Progress
  | .items before :: stack => some (reading (.items before :: stack) .value)
  | .members before :: stack => some (reading (.members before :: stack) .name)
  | _ => none

/-- One token. -/
def step : Progress → Token → Option Progress
  | done _, _ => none
  | reading stack .value, token => begin stack token
  | reading stack .item, token => if token = .closeArray then close stack token else begin stack token
  | reading stack .member, token => if token = .closeObject then close stack token else name stack token
  | reading stack .name, token => name stack token
  | reading stack .colon, token => if token = .colon then some (reading stack .value) else none
  | reading stack .separator, token => if token = .comma then more stack else close stack token

end Progress

/-- Reads on from some progress to the end of the tokens. -/
def readFrom (progress : Progress) : List Token → Option Progress
  | [] => some progress
  | token :: tokens => do readFrom (← progress.step token) tokens

/-- The value that tokens spell. -/
def ofTokens? (tokens : List Token) : Option Json :=
  match readFrom .start tokens with
  | some (.done value) => some value
  | _ => none

/-- The value of a JSON text. -/
def ofText? (text : String) : Option Json :=
  (Token.ofText? text.toList).bind ofTokens?

end DriverAlerts.Json
