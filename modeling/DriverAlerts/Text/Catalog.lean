import DriverAlerts.Error
import DriverAlerts.Json.Decode
import DriverAlerts.Text.English
import DriverAlerts.Text.Locale
import DriverAlerts.Text.Russian
import DriverAlerts.Text.Template
/-!
# Text catalogs

The wording of alerts is data. A catalog holds the texts of one language by key, each key once. Two
catalogs are built in. Others are read from a JSON object whose members are all texts, where the last
member of a name counts, and a catalog without entries is refused.
-/

namespace DriverAlerts

/-- The texts of one language by key. -/
structure Catalog where
  locale : Locale
  texts : List (String × String)
  deriving Repr

namespace Catalog

/-- Puts in a text, in place of one that has the key already. -/
def put (texts : List (String × String)) (key text : String) : List (String × String) :=
  match texts with
  | [] => [(key, text)]
  | (k, t) :: texts => if k = key then (key, text) :: texts else (k, t) :: put texts key text

/-- The texts of entries; of entries with one key the last counts. -/
def collect (entries : List (String × String)) : List (String × String) :=
  entries.foldl (fun texts (key, text) => put texts key text) []

/-- The built-in catalog of a language. -/
def embedded : Locale → Catalog
  | .en => ⟨.en, Text.english⟩
  | .ru => ⟨.ru, Text.russian⟩

/-- The entries of an object of texts. -/
def entries : Json.Decoder (List (String × String))
  | .object members => do
    let members ← Json.namedMembers members
    members.mapM fun (key, value) => return (key, ← Json.text value)
  | _ => .error (.expected "an object of texts")

/-- Reads the catalog of a language. -/
def ofJson (locale : Locale) (json : String) : Except ValidationError Catalog :=
  match Json.decodeText entries json with
  | .error cause => .error (.malformedCatalog locale.name cause.message)
  | .ok [] => .error (.malformedCatalog locale.name "catalog has no entries")
  | .ok entries => .ok ⟨locale, collect entries⟩

def size (catalog : Catalog) : Nat :=
  catalog.texts.length

def isEmpty (catalog : Catalog) : Bool :=
  catalog.texts.isEmpty

def text? (catalog : Catalog) (key : String) : Option String :=
  catalog.texts.lookup key

/-- The text of a key. -/
def text (catalog : Catalog) (key : String) : Except ValidationError String :=
  match catalog.text? key with
  | some text => .ok text
  | none => .error (.missingText catalog.locale.name key)

/-- The text of a key as a template. -/
def template (catalog : Catalog) (key : String) : Except ValidationError Template :=
  Template.mk <$> catalog.text key

/-- Checks that keys have texts, in their order. -/
def require (catalog : Catalog) : List String → Except ValidationError Unit
  | [] => .ok ()
  | key :: keys => do
    discard (catalog.text key)
    catalog.require keys

/-- The text of a key that has been checked. -/
def textOrEmpty (catalog : Catalog) (key : String) : String :=
  (catalog.text? key).getD ""

end Catalog

end DriverAlerts
