import DriverAlerts.EventSet
import Mathlib.Data.List.Induction
/-!
# Runs of an event set

Between two resets an event set only grows: whatever adds events, one at a time or from records, puts
some additions behind the active ones and the sticky ones among them behind the sticky ones, and
leaves the counts alone. So there are two things a command can do, and `Command.apply_eq_extend` says
so once for all commands that are not a reset. Everything else known about runs is a consequence of
that and of what a reset does.
-/

namespace DriverAlerts

/-- An event that is added, for one cycle or for good. -/
structure Addition where
  event : Event
  sticky : Bool
  deriving DecidableEq, Repr

namespace EventRecord

/-- The name of the record is the name of an event. -/
def isKnown (record : EventRecord) : Bool :=
  (Named.ofName? (α := Event) record.name).isSome

/-- The events that records name, in the order of the records. -/
def knownEvents (records : List EventRecord) : List Event :=
  records.filterMap fun record => Named.ofName? record.name

theorem event_eq_ok_iff {record : EventRecord} {event : Event} :
    record.event = .ok event ↔ Named.ofName? record.name = some event := by
  rw [EventRecord.event]
  cases Named.ofName? (α := Event) record.name <;> simp

/-- A record whose name is unknown is reported by that name. -/
theorem event_eq_error_iff {record : EventRecord} {cause : RecordError} :
    record.event = .error cause ↔ record.isKnown = false ∧ cause = .unknownEvent record.name := by
  rw [EventRecord.event, isKnown]
  cases Named.ofName? (α := Event) record.name <;> simp [eq_comm]

/-- All names are known where none is found that is not. -/
theorem all_isKnown_eq (records : List EventRecord) :
    records.all isKnown = (records.find? fun record => !record.isKnown).isNone := by
  induction records with
  | nil => rfl
  | cons record records ih =>
      rw [List.all_cons, List.find?_cons, ih]
      cases record.isKnown <;> rfl

end EventRecord

open EventRecord (knownEvents)

namespace EventSet

/-- The set after some additions. -/
def extend (set : EventSet) (additions : List Addition) : EventSet :=
  { set with
    active := set.active ++ additions.map Addition.event
    sticky := set.sticky ++ (additions.filter Addition.sticky).map Addition.event }

section Extend

variable (set : EventSet) (additions : List Addition)

@[simp] theorem table_extend : (set.extend additions).table = set.table := rfl

@[simp] theorem counts_extend : (set.extend additions).counts = set.counts := rfl

@[simp] theorem cycle_extend : (set.extend additions).cycle = set.cycle := rfl

@[simp] theorem active_extend :
    (set.extend additions).active = set.active ++ additions.map Addition.event := rfl

@[simp] theorem sticky_extend : (set.extend additions).sticky =
    set.sticky ++ (additions.filter Addition.sticky).map Addition.event := rfl

@[simp] theorem persistence_extend (event : Event) :
    (set.extend additions).persistence event = set.persistence event := rfl

@[simp] theorem extend_nil : set.extend [] = set := by
  simp only [extend, List.map_nil, List.filter_nil, List.append_nil]

theorem extend_extend (more : List Addition) :
    (set.extend additions).extend more = set.extend (additions ++ more) := by
  simp only [extend, List.map_append, List.filter_append, List.append_assoc]

end Extend

theorem value_add (set : EventSet) (event : Event) (sticky : Bool) :
    (set.add event sticky).value = set.extend [⟨event, sticky⟩] := by
  cases sticky <;> simp [add, extend]

theorem value_addAll (set : EventSet) (sticky : Bool) (events : List Event) :
    (set.addAll sticky events).value = set.extend (events.map fun event => ⟨event, sticky⟩) := by
  induction events generalizing set with
  | nil => rw [addAll, Logged.value_pure, List.map_nil, extend_nil]
  | cons event events ih =>
      rw [addAll, Logged.value_bind, ih, value_add, extend_extend, List.map_cons,
        List.singleton_append]

/-- What records name is added for one cycle, and the other records are counted. -/
theorem value_addRecords (set : EventSet) (records : List EventRecord) :
    (set.addRecords records).value =
      (set.extend ((knownEvents records).map fun event => ⟨event, false⟩),
        records.countP fun record => !record.isKnown) := by
  induction records generalizing set with
  | nil => simp only [addRecords, Logged.value_pure, knownEvents, List.filterMap_nil, List.map_nil,
      extend_nil, List.countP_nil]
  | cons record records ih =>
      rw [addRecords]
      cases hevent : record.event with
      | ok event =>
          rw [EventRecord.event_eq_ok_iff] at hevent
          have hknown : record.isKnown := by rw [EventRecord.isKnown, hevent, Option.isSome_some]
          rw [Logged.value_bind, ih, value_add, extend_extend]
          simp only [knownEvents, List.filterMap_cons, hevent, List.map_cons, List.singleton_append,
            List.countP_cons, hknown, Bool.not_true, Bool.false_eq_true, if_false, Nat.add_zero]
      | error cause =>
          have hknown := (EventRecord.event_eq_error_iff.mp hevent).1
          have hnone : Named.ofName? (α := Event) record.name = none := by
            simpa only [EventRecord.isKnown, Option.isSome_eq_false_iff, Option.isNone_iff_eq_none]
              using hknown
          simp only [ih, knownEvents, List.filterMap_cons, hnone, List.countP_cons, hknown,
            Bool.not_false, if_true]

/-- The first record of an unknown event decides; without one, all events are known. -/
theorem eventsOfRecords_eq (records : List EventRecord) :
    eventsOfRecords records =
      match records.find? fun record => !record.isKnown with
      | some record => .error (.unknownEvent record.name)
      | none => .ok (knownEvents records) := by
  induction records with
  | nil => rfl
  | cons record records ih =>
      rw [eventsOfRecords] at ih ⊢
      rw [List.mapM_cons]
      cases hevent : record.event with
      | ok event =>
          rw [EventRecord.event_eq_ok_iff] at hevent
          have hknown : record.isKnown := by rw [EventRecord.isKnown, hevent, Option.isSome_some]
          simp only [ih, List.find?_cons, hknown, Bool.not_true, knownEvents, List.filterMap_cons,
            hevent]
          cases records.find? fun record => !record.isKnown <;> rfl
      | error cause =>
          obtain ⟨hknown, rfl⟩ := EventRecord.event_eq_error_iff.mp hevent
          simp only [List.find?_cons, hknown, Bool.not_false]
          rfl

/-- Either every record is known and all are added for one cycle, or none is. -/
theorem value_tryAddRecords (set : EventSet) (records : List EventRecord) :
    (set.tryAddRecords records).value =
      match records.find? fun record => !record.isKnown with
      | some record => (set, .error (.unknownEvent record.name))
      | none => (set.extend ((knownEvents records).map fun event => ⟨event, false⟩), .ok ()) := by
  rw [tryAddRecords, eventsOfRecords_eq]
  cases records.find? fun record => !record.isKnown with
  | some record => rfl
  | none => simp only [Logged.value_bind, Logged.value_pure, value_addAll]

end EventSet

/-! ### Commands -/

/-- What the owner of an event set can do to it. -/
inductive Command where
  | add (event : Event) (sticky : Bool)
  | addRecords (records : List EventRecord)
  | tryAddRecords (records : List EventRecord)
  | reset

namespace Command

/-- The set that a command leaves. -/
def apply (command : Command) (set : EventSet) : EventSet :=
  match command with
  | .add event sticky => (set.add event sticky).value
  | .addRecords records => (set.addRecords records).value.1
  | .tryAddRecords records => (set.tryAddRecords records).value.1
  | .reset => set.reset

def isReset : Command → Bool
  | .reset => true
  | _ => false

/-- What a command adds. A batch of records that is taken whole or not at all adds nothing if one of
them is unknown. -/
def additions : Command → List Addition
  | .add event sticky => [⟨event, sticky⟩]
  | .addRecords records => (knownEvents records).map fun event => ⟨event, false⟩
  | .tryAddRecords records =>
    if records.all EventRecord.isKnown then
      (knownEvents records).map fun event => ⟨event, false⟩
    else []
  | .reset => []

/-- All a command does that is not a reset. -/
theorem apply_eq_extend {command : Command} (hcommand : command.isReset = false) (set : EventSet) :
    command.apply set = set.extend command.additions := by
  cases command with
  | add event sticky => exact set.value_add event sticky
  | addRecords records => rw [apply, EventSet.value_addRecords, additions]
  | tryAddRecords records =>
      rw [apply, EventSet.value_tryAddRecords, additions, EventRecord.all_isKnown_eq]
      cases records.find? fun record => !record.isKnown with
      | some record => simp only [Option.isNone_some, Bool.false_eq_true, if_false,
          EventSet.extend_nil]
      | none => simp only [Option.isNone_none, if_true]
  | reset => exact absurd hcommand (by decide)

theorem eq_reset {command : Command} (hcommand : command.isReset) : command = .reset := by
  cases command with
  | reset => rfl
  | _ => exact absurd hcommand Bool.false_ne_true

section Apply

variable (command : Command) (set : EventSet)

theorem table_apply : (command.apply set).table = set.table := by
  cases hcommand : command.isReset with
  | false => rw [apply_eq_extend hcommand, EventSet.table_extend]
  | true =>
      rw [eq_reset hcommand]
      rfl

theorem cycle_apply :
    (command.apply set).cycle = if command.isReset then set.cycle + 1 else set.cycle := by
  cases hcommand : command.isReset with
  | false => rw [apply_eq_extend hcommand, EventSet.cycle_extend, if_neg Bool.false_ne_true]
  | true =>
      rw [eq_reset hcommand, if_pos rfl]
      rfl

end Apply

end Command

/-- The set after some commands, starting from the empty set over a table. -/
def run (table : Table) (commands : List Command) : EventSet :=
  commands.foldl (fun set command => command.apply set) (EventSet.new table).value

@[simp] theorem run_nil (table : Table) : run table [] = (EventSet.new table).value := rfl

theorem run_concat (table : Table) (commands : List Command) (command : Command) :
    run table (commands ++ [command]) = command.apply (run table commands) := by
  rw [run, List.foldl_append, List.foldl_cons, List.foldl_nil, run]

/-- A property of a fresh set that additions and resets keep holds after every run. -/
theorem run_induction {table : Table} {motive : EventSet → Prop}
    (hnew : motive (EventSet.new table).value)
    (hextend : ∀ set additions, motive set → motive (set.extend additions))
    (hreset : ∀ set, motive set → motive set.reset) (commands : List Command) :
    motive (run table commands) := by
  induction commands using List.reverseRecOn with
  | nil => exact hnew
  | append_singleton commands command ih =>
      rw [run_concat]
      cases hcommand : command.isReset with
      | false =>
          rw [Command.apply_eq_extend hcommand]
          exact hextend _ _ ih
      | true =>
          rw [Command.eq_reset hcommand]
          exact hreset _ ih

theorem table_run (table : Table) (commands : List Command) : (run table commands).table = table :=
  run_induction (motive := fun set => set.table = table) rfl (fun _ _ h => h) (fun _ h => h) commands

end DriverAlerts
