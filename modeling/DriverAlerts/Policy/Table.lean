import DriverAlerts.Policy.Layout
/-!
# The policy table

The table maps events to rows and never changes once it is built. It is shared by all event sets of a
process. An event without a row has no categories, and neither has one whose row is silent.
-/

namespace DriverAlerts

/-- An immutable map from events to rows, with the digest of its layout. -/
structure Table where
  row? : Event → Option Row
  fingerprint : String
  fingerprint_eq : fingerprint = Layout.fingerprint row?

namespace Table

/-- The table of rows, each computed once. -/
def ofRows (row? : Event → Option Row) : Table :=
  let rows := Event.all.map fun event => (event, row? event)
  let look := fun event => (rows.lookup event).join
  ⟨look, Layout.fingerprint look, rfl⟩

/-- The event has a row, which may be silent. -/
def contains (table : Table) (event : Event) : Bool :=
  (table.row? event).isSome

def slot? (table : Table) (event : Event) (category : Category) : Option Slot :=
  (table.row? event).bind fun row => row.slot? category

def hasCategory (table : Table) (event : Event) (category : Category) : Bool :=
  (table.slot? event category).isSome

/-- The events that have rows, in declaration order. -/
def events (table : Table) : List Event :=
  Event.all.filter table.contains

def size (table : Table) : Nat :=
  table.events.length

def isEmpty (table : Table) : Bool :=
  table.events.isEmpty

end Table

/-- Rows that are collected for a table. -/
structure TableBuilder where
  row? : Event → Option Row
  /-- The event of the first row that repeats an earlier one. -/
  duplicate : Option Event

namespace TableBuilder

def empty : TableBuilder :=
  ⟨fun _ => none, none⟩

/-- Adds a row, in place of one that the event had. -/
def row (builder : TableBuilder) (event : Event) (row : Row) : TableBuilder where
  row? e := if e = event then some row else builder.row? e
  duplicate :=
    match builder.duplicate with
    | some first => some first
    | none => if (builder.row? event).isSome then some event else none

/-- Adds a silent row. -/
def silent (builder : TableBuilder) (event : Event) : TableBuilder :=
  builder.row event .silent

/-- A builder that has been given rows in their order. -/
def ofRows (rows : List (Event × Row)) : TableBuilder :=
  rows.foldl (fun builder (event, row) => builder.row event row) empty

/-- The table, if no event was given two rows. -/
def build (builder : TableBuilder) : Except ValidationError Table :=
  match builder.duplicate with
  | some event => .error (.duplicateRow event)
  | none => .ok (.ofRows builder.row?)

end TableBuilder

end DriverAlerts
