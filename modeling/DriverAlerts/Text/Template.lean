/-!
# Templates

A text may hold placeholders: a name of lower-case letters and underscores in braces. A template is
read once from the left. A brace is held back together with the name that may follow it, until it
turns out whether they make a placeholder, and if not they are plain text. Values are put in where a
placeholder stands and are not read again, and a placeholder without a value stays as it is.
-/

namespace DriverAlerts

/-- A text with placeholders. -/
structure Template where
  raw : String
  deriving DecidableEq, Repr

namespace Template

/-- What a template is made of. -/
inductive Piece where
  | char (c : Char)
  | placeholder (name : List Char)
  deriving DecidableEq, Repr

def isNameChar (c : Char) : Bool :=
  ('a' ≤ c ∧ c ≤ 'z') ∨ c = '_'

/-- An open brace and the name behind it, latest character first, as plain text. -/
def plain (held : List Char) : List Piece :=
  .char '\x7b' :: held.reverse.map .char

/-- The pieces of a text, behind an open brace and a name that are held back if there are any. -/
def split : Option (List Char) → List Char → List Piece
  | none, [] => []
  | none, c :: text =>
    if c = '\x7b' then split (some []) text else .char c :: split none text
  | some held, [] => plain held
  | some held, c :: text =>
    if isNameChar c then split (some (c :: held)) text
    else if c = '\x7d' ∧ held ≠ [] then .placeholder held.reverse :: split none text
    else if c = '\x7b' then plain held ++ split (some []) text
    else plain held ++ .char c :: split none text

def pieces (template : Template) : List Piece :=
  split none template.raw.toList

/-- The characters of a piece, its value being the first one given for its name. -/
def Piece.render (values : List (String × String)) : Piece → List Char
  | char c => [c]
  | placeholder name =>
    match values.lookup (String.ofList name) with
    | some value => value.toList
    | none => '\x7b' :: name ++ ['\x7d']

/-- The text with values in place of placeholders. -/
def render (template : Template) (values : List (String × String)) : String :=
  String.ofList (template.pieces.flatMap (Piece.render values))

end Template

end DriverAlerts
