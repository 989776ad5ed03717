import DriverAlerts.Notice
import DriverAlerts.Snapshot
/-!
# The active events of a control loop

An event set holds the events of the current cycle in the order in which they were added, the sticky
events, which are active again in every later cycle, and for each event with a row the number of
consecutive completed cycles in which it was active. A cycle ends with a reset. An event counts as
active in a cycle if it is active when the cycle ends, however often it was added.
-/

namespace DriverAlerts

/-- Active events and how long they have been active. -/
structure EventSet where
  table : Table
  active : List Event
  sticky : List Event
  /-- For each event with a row, its consecutive completed cycles. -/
  counts : List (Event × Cycles)
  /-- How many cycles have been completed. -/
  cycle : UInt64

namespace EventSet

/-- The empty set over a table. -/
def new (table : Table) : Logged EventSet where
  value := ⟨table, [], [], table.events.map fun event => (event, 0), 0⟩
  notices := if table.isEmpty then [.emptyTable] else []

/-- Adds an event to this cycle and, if it is sticky, to every later one. -/
def add (set : EventSet) (event : Event) (sticky : Bool) : Logged EventSet where
  value := { set with
    active := set.active ++ [event]
    sticky := if sticky then set.sticky ++ [event] else set.sticky }
  notices := if set.table.contains event then [] else [.withoutRow event]

/-- Adds events in their order. -/
def addAll (set : EventSet) (sticky : Bool) : List Event → Logged EventSet
  | [] => pure set
  | event :: events => do (← set.add event sticky).addAll sticky events

/-- Adds the events that records name and skips records of unknown events. Returns how many were
skipped. -/
def addRecords (set : EventSet) : List EventRecord → Logged (EventSet × Nat)
  | [] => pure (set, 0)
  | record :: records =>
    match record.event with
    | .ok event => do (← set.add event false).addRecords records
    | .error cause =>
      let rest := set.addRecords records
      ⟨(rest.value.1, rest.value.2 + 1), .skippedRecord cause :: rest.notices⟩

/-- The events that records name; the first record of an unknown event is an error. -/
def eventsOfRecords (records : List EventRecord) : Except RecordError (List Event) :=
  records.mapM EventRecord.event

/-- Adds the events that records name. All records are read before the first event is added, and if
one of them names no event, that is the answer. -/
def tryAddRecords (set : EventSet) (records : List EventRecord) :
    Logged (EventSet × Except RecordError Unit) :=
  match eventsOfRecords records with
  | .ok events => do return (← set.addAll false events, .ok ())
  | .error cause => pure (set, .error cause)

/-- The set over a table in which the events that records name are active. Their counts start anew. -/
def ofRecords (table : Table) (records : List EventRecord) : Logged EventSet := do
  let (set, _) ← (← new table).addRecords records
  return set

/-- Completes the cycle. -/
def reset (set : EventSet) : EventSet :=
  { set with
    active := set.sticky
    counts := set.counts.map fun (event, count) =>
      (event, if event ∈ set.active then count.next else 0)
    cycle := set.cycle + 1 }

/-- Some active event has a slot for the category. -/
def hasCategory (set : EventSet) (category : Category) : Bool :=
  set.active.any fun event => set.table.hasCategory event category

def contains (set : EventSet) (event : Event) : Bool :=
  set.active.contains event

/-- The number of active entries, repeated ones included. -/
def size (set : EventSet) : Nat :=
  set.active.length

def isEmpty (set : EventSet) : Bool :=
  set.active.isEmpty

/-- The consecutive completed cycles of an event; none for an event without a row. -/
def persistence (set : EventSet) (event : Event) : Cycles :=
  (set.counts.lookup event).getD 0

/-- One record for each active entry. -/
def toRecords (set : EventSet) : List EventRecord :=
  set.active.map (EventRecord.ofEvent set.table)

/-- What is published of this cycle. -/
def snapshot (set : EventSet) (capturedAt : Timestamp) : Snapshot where
  capturedAt
  cycle := set.cycle
  fingerprint := set.table.fingerprint
  records := set.toRecords

end EventSet

end DriverAlerts
