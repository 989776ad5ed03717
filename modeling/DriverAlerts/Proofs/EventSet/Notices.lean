import DriverAlerts.Proofs.EventSet.Run
/-!
# What is said while events are taken

An event set speaks of two things it is handed: an event that has no row, and a record whose name it
does not know. It says one line about each, where it meets it, and is silent about everything else.
So what a run says is read off what the run hands over, in the order in which it does, and the set
enters only by its table. A batch that is refused hands over nothing.
-/

namespace DriverAlerts

/-- A notice as a log shows it. -/
def Notice.line (notice : Notice) : Severity × String :=
  (notice.severity, notice.message)

/-- What becomes of an event or a record that is handed to a set. -/
inductive Intake where
  | added (event : Event)
  | skipped (name : String)
  deriving DecidableEq, Repr

namespace Intake

/-- The event that becomes active, if one does. -/
def event? : Intake → Option Event
  | added event => some event
  | skipped _ => none

/-- The line that is said about it over a table, if there is anything to say. -/
def line? (table : Table) : Intake → Option (Severity × String)
  | added event =>
    if table.contains event then none
    else some (.debug,
      "event " ++ event.name ++ " has no policy row, it classifies as no categories")
  | skipped name =>
    some (.debug, "skipping record: Unknown event name in record: '" ++ name ++ "'")

end Intake

namespace EventRecord

/-- What becomes of a record when records are taken one by one. -/
def intake (record : EventRecord) : Intake :=
  match Named.ofName? record.name with
  | some event => .added event
  | none => .skipped record.name

theorem filterMap_event?_intake (records : List EventRecord) :
    (records.map intake).filterMap Intake.event? = knownEvents records := by
  rw [List.filterMap_map, knownEvents]
  congr 1
  funext record
  rw [Function.comp_apply, intake]
  cases Named.ofName? (α := Event) record.name <;> rfl

/-- Where every name is known, every record is added. -/
theorem map_intake_of_all_isKnown {records : List EventRecord} (hknown : records.all isKnown) :
    records.map intake = (knownEvents records).map .added := by
  induction records with
  | nil => rfl
  | cons record records ih =>
      rw [List.all_cons, Bool.and_eq_true] at hknown
      obtain ⟨event, hevent⟩ := Option.isSome_iff_exists.mp hknown.1
      rw [knownEvents] at ih ⊢
      rw [List.map_cons, List.filterMap_cons, intake, hevent, ih hknown.2]
      rfl

end EventRecord

open EventRecord (knownEvents)

/-! ### One command -/

namespace EventSet

variable (set : EventSet)

theorem lines_add (event : Event) (sticky : Bool) :
    (set.add event sticky).notices.map Notice.line =
      [Intake.added event].filterMap (Intake.line? set.table) := by
  rw [add, List.filterMap_cons, Intake.line?]
  cases set.table.contains event <;> rfl

theorem lines_addAll (sticky : Bool) (events : List Event) :
    (set.addAll sticky events).notices.map Notice.line =
      (events.map Intake.added).filterMap (Intake.line? set.table) := by
  induction events generalizing set with
  | nil => rfl
  | cons event events ih =>
      rw [addAll, Logged.notices_bind, List.map_append, ih, value_add, table_extend, lines_add,
        List.map_cons, ← List.filterMap_append, List.singleton_append]

/-- A record that is skipped is spoken of in its place among the others. -/
theorem lines_addRecords (records : List EventRecord) :
    (set.addRecords records).notices.map Notice.line =
      (records.map EventRecord.intake).filterMap (Intake.line? set.table) := by
  induction records generalizing set with
  | nil => rfl
  | cons record records ih =>
      rw [addRecords, List.map_cons, ← List.singleton_append, List.filterMap_append,
        EventRecord.intake]
      cases hevent : record.event with
      | ok event =>
          rw [EventRecord.event_eq_ok_iff.mp hevent, ← lines_add set event false]
          dsimp only
          rw [Logged.notices_bind, List.map_append, ih, value_add, table_extend]
      | error cause =>
          obtain ⟨hunknown, rfl⟩ := EventRecord.event_eq_error_iff.mp hevent
          rw [EventRecord.isKnown, Option.isSome_eq_false_iff, Option.isNone_iff_eq_none] at hunknown
          rw [hunknown, List.map_cons, ih]
          rfl

theorem lines_tryAddRecords (records : List EventRecord) :
    (set.tryAddRecords records).notices.map Notice.line =
      (if records.all EventRecord.isKnown then records.map EventRecord.intake
        else []).filterMap (Intake.line? set.table) := by
  rw [tryAddRecords, eventsOfRecords_eq]
  cases hall : records.all EventRecord.isKnown with
  | false =>
      rw [EventRecord.all_isKnown_eq] at hall
      obtain ⟨record, hfirst⟩ := Option.isSome_iff_exists.mp (Option.isNone_eq_false_iff.mp hall)
      rw [hfirst]
      rfl
  | true =>
      rw [if_pos rfl, EventRecord.map_intake_of_all_isKnown hall, ← lines_addAll set false]
      rw [EventRecord.all_isKnown_eq, Option.isNone_iff_eq_none] at hall
      rw [hall, Logged.notices_bind, Logged.notices_pure, List.append_nil]

/-- A batch that is refused leaves no notice. -/
theorem notices_tryAddRecords_of_error {records : List EventRecord} {cause : RecordError}
    (herror : (set.tryAddRecords records).value.2 = .error cause) :
    (set.tryAddRecords records).notices = [] := by
  rw [tryAddRecords] at herror ⊢
  cases hevents : eventsOfRecords records with
  | ok events =>
      rw [hevents] at herror
      cases herror
  | error other => rfl

end EventSet

namespace Command

/-- A command with what is said about it. -/
def perform (command : Command) (set : EventSet) : Logged EventSet :=
  match command with
  | .add event sticky => set.add event sticky
  | .addRecords records => do return (← set.addRecords records).1
  | .tryAddRecords records => do return (← set.tryAddRecords records).1
  | .reset => pure set.reset

/-- What a command hands over, event by event and record by record. -/
def intake : Command → List Intake
  | .add event _ => [.added event]
  | .addRecords records => records.map EventRecord.intake
  | .tryAddRecords records =>
    if records.all EventRecord.isKnown then records.map EventRecord.intake else []
  | .reset => []

section Perform

variable (command : Command) (set : EventSet)

theorem value_perform : (command.perform set).value = command.apply set := by
  cases command <;> rfl

theorem lines_perform :
    (command.perform set).notices.map Notice.line =
      command.intake.filterMap (Intake.line? set.table) := by
  cases command with
  | add event sticky => exact set.lines_add event sticky
  | addRecords records =>
      rw [perform, Logged.notices_bind, Logged.notices_pure, List.append_nil]
      exact set.lines_addRecords records
  | tryAddRecords records =>
      rw [perform, Logged.notices_bind, Logged.notices_pure, List.append_nil]
      exact set.lines_tryAddRecords records
  | reset => rfl

/-- What is handed over and not skipped is what is added. -/
theorem filterMap_event?_intake :
    command.intake.filterMap Intake.event? = command.additions.map Addition.event := by
  have hevents : ∀ events : List Event,
      (events.map fun event => (⟨event, false⟩ : Addition)).map Addition.event = events := by
    intro events
    rw [List.map_map]
    exact List.map_id events
  cases command with
  | add event sticky => rfl
  | addRecords records =>
      rw [intake, EventRecord.filterMap_event?_intake, additions, hevents]
  | tryAddRecords records =>
      rw [intake, additions]
      split
      · rw [EventRecord.filterMap_event?_intake, hevents]
      · rfl
  | reset => rfl

end Perform

end Command

/-! ### A run -/

/-- Commands one after the other, with all that is said. -/
def performAll (set : EventSet) : List Command → Logged EventSet
  | [] => pure set
  | command :: commands => do performAll (← command.perform set) commands

theorem value_performAll (set : EventSet) (commands : List Command) :
    (performAll set commands).value =
      commands.foldl (fun set command => command.apply set) set := by
  induction commands generalizing set with
  | nil => rfl
  | cons command commands ih =>
      rw [performAll, Logged.value_bind, ih, Command.value_perform, List.foldl_cons]

theorem lines_performAll (set : EventSet) (commands : List Command) :
    (performAll set commands).notices.map Notice.line =
      (commands.flatMap Command.intake).filterMap (Intake.line? set.table) := by
  induction commands generalizing set with
  | nil => rfl
  | cons command commands ih =>
      rw [performAll, Logged.notices_bind, List.map_append, ih, Command.value_perform,
        Command.table_apply, Command.lines_perform, List.flatMap_cons, List.filterMap_append]

/-- Until the next reset, what is handed over and not skipped stands behind what was active. -/
theorem active_performAll (set : EventSet) {commands : List Command}
    (hcommands : ∀ command ∈ commands, command.isReset = false) :
    (performAll set commands).value.active =
      set.active ++ (commands.flatMap Command.intake).filterMap Intake.event? := by
  induction commands generalizing set with
  | nil => exact (List.append_nil _).symm
  | cons command commands ih =>
      rw [List.forall_mem_cons] at hcommands
      rw [performAll, Logged.value_bind, ih _ hcommands.2, Command.value_perform,
        Command.apply_eq_extend hcommands.1, EventSet.active_extend, List.flatMap_cons,
        List.filterMap_append, Command.filterMap_event?_intake, List.append_assoc]

end DriverAlerts
