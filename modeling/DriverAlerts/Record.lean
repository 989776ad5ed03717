import DriverAlerts.Json.Decode
import DriverAlerts.Policy.Table
/-!
# Event records

Other processes see an active event as a record: its name and, for each category, whether the sender's
table associates the event with it. The name is kept as text, so a reader can hold records of events
it does not know.
-/

namespace DriverAlerts

/-- An event by its name. -/
def Event.decode : Json.Decoder Event := fun json => do
  match Named.ofName? (← Json.text json) with
  | some event => return event
  | none => .error (.expected "a known event")

/-- For each category, whether it is flagged. -/
structure CategoryFlags where
  get : Category → Bool

namespace CategoryFlags

def none : CategoryFlags :=
  ⟨fun _ => false⟩

def set (flags : CategoryFlags) (category : Category) (value : Bool) : CategoryFlags :=
  ⟨fun c => if c = category then value else flags.get c⟩

/-- The categories that a table associates with an event. -/
def ofEvent (table : Table) (event : Event) : CategoryFlags :=
  ⟨table.hasCategory event⟩

/-- The flagged categories, in declaration order. -/
def categories (flags : CategoryFlags) : List Category :=
  Category.all.filter flags.get

def fields : List String :=
  Category.all.map Category.name

def decode : Json.Decoder CategoryFlags := fun json => do
  let entries ← Json.entries fields json
  let values ← Category.all.mapM fun category => do
    return (category, ← entries.required category.name Json.boolean)
  return ⟨fun category => (values.lookup category).getD false⟩

def toJson (flags : CategoryFlags) : Json :=
  .record (Category.all.map fun category => (category.name, .bool (flags.get category)))

end CategoryFlags

/-- An active event as it is published. -/
structure EventRecord where
  name : String
  flags : CategoryFlags

namespace EventRecord

def ofEvent (table : Table) (event : Event) : EventRecord :=
  ⟨event.name, .ofEvent table event⟩

/-- The event of a record, if its name is known. -/
def event (record : EventRecord) : Except RecordError Event :=
  match Named.ofName? record.name with
  | some event => .ok event
  | none => .error (.unknownEvent record.name)

def fields : List String := ["name", "flags"]

def decode : Json.Decoder EventRecord := fun json => do
  let entries ← Json.entries fields json
  return {
    name := ← entries.required "name" Json.text
    flags := ← entries.required "flags" CategoryFlags.decode }

def toJson (record : EventRecord) : Json :=
  .record [("name", .ofString record.name), ("flags", record.flags.toJson)]

end EventRecord

end DriverAlerts
