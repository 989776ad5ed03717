import DriverAlerts.Proofs.EventSet.Persistence
/-!
# Events that are left out of a run

Some events are kept, and a run can be told again without what concerns the others. Its history is then
the history of the full run without their additions, in the same cycles. Everything that an event set
holds is read off the history, and of an event it is read off the additions of that event alone, so the
restricted run leaves the set of the full run without the events that are not kept.
-/

namespace DriverAlerts

/-- The record names no event that is left out. A name that is unknown is no event. -/
def EventRecord.isKept (keep : Event → Bool) (record : EventRecord) : Bool :=
  (Named.ofName? record.name).all keep

theorem EventRecord.knownEvents_filter_isKept (keep : Event → Bool) (records : List EventRecord) :
    knownEvents (records.filter (isKept keep)) = (knownEvents records).filter keep := by
  rw [knownEvents, knownEvents, List.filterMap_filter, List.filter_filterMap]
  apply List.filterMap_congr
  intro record _
  rw [isKept]
  cases Named.ofName? (α := Event) record.name with
  | none => rfl
  | some event => rfl

theorem EventRecord.all_isKnown_filter_isKept (keep : Event → Bool) (records : List EventRecord) :
    (records.filter (isKept keep)).all isKnown = records.all isKnown := by
  rw [List.all_filter]
  congr 1
  funext record
  rw [isKept, isKnown]
  cases Named.ofName? (α := Event) record.name with
  | none => rfl
  | some event => exact Bool.or_true _

/-! ### One command -/

/-- What is left of a command without the events that are not kept. -/
def Command.restrict (keep : Event → Bool) : Command → Option Command
  | .add event sticky => if keep event then some (.add event sticky) else none
  | .addRecords records => some (.addRecords (records.filter (EventRecord.isKept keep)))
  | .tryAddRecords records => some (.tryAddRecords (records.filter (EventRecord.isKept keep)))
  | .reset => some .reset

namespace Command

variable {keep : Event → Bool} {command : Command}

theorem of_restrict_eq_none (h : command.restrict keep = none) :
    command.isReset = false ∧
      command.additions.filter (fun addition => keep addition.event) = [] := by
  cases command with
  | add event sticky =>
      rw [restrict] at h
      cases hkeep : keep event with
      | false => exact ⟨rfl, by simp [additions, hkeep]⟩
      | true =>
          rw [if_pos hkeep] at h
          exact absurd h (Option.some_ne_none _)
  | addRecords records => exact absurd h (Option.some_ne_none _)
  | tryAddRecords records => exact absurd h (Option.some_ne_none _)
  | reset => exact absurd h (Option.some_ne_none _)

theorem filter_map_unsticky (keep : Event → Bool) (events : List Event) :
    ((events.map fun event => (⟨event, false⟩ : Addition)).filter
        fun addition => keep addition.event) =
      (events.filter keep).map fun event => ⟨event, false⟩ := by
  rw [List.filter_map]
  rfl

theorem of_restrict_eq_some {kept : Command} (h : command.restrict keep = some kept) :
    kept.isReset = command.isReset ∧
      kept.additions = command.additions.filter fun addition => keep addition.event := by
  cases command with
  | add event sticky =>
      rw [restrict] at h
      cases hkeep : keep event with
      | false =>
          rw [hkeep, if_neg Bool.false_ne_true] at h
          exact absurd h.symm (Option.some_ne_none _)
      | true =>
          rw [if_pos hkeep] at h
          obtain rfl := Option.some.inj h
          exact ⟨rfl, by simp [additions, hkeep]⟩
  | addRecords records =>
      obtain rfl := Option.some.inj h
      refine ⟨rfl, ?_⟩
      rw [additions, additions, EventRecord.knownEvents_filter_isKept, filter_map_unsticky]
  | tryAddRecords records =>
      obtain rfl := Option.some.inj h
      refine ⟨rfl, ?_⟩
      rw [additions, additions, EventRecord.knownEvents_filter_isKept,
        EventRecord.all_isKnown_filter_isKept]
      split
      · rw [filter_map_unsticky]
      · rfl
  | reset =>
      obtain rfl := Option.some.inj h
      exact ⟨rfl, rfl⟩

end Command

/-! ### The history without the events that are left out -/

namespace History

/-- The run without the events that are not kept. -/
def restrict (keep : Event → Bool) (commands : List Command) : List Command :=
  commands.filterMap (Command.restrict keep)

variable (keep : Event → Bool) (commands : List Command)

theorem resets_restrict : resets (restrict keep commands) = resets commands := by
  rw [resets, restrict, List.countP_filterMap, resets]
  apply List.countP_congr
  intro command _
  cases hkept : command.restrict keep with
  | none => rw [(Command.of_restrict_eq_none hkept).1]; rfl
  | some kept => rw [Option.map_some, Option.getD_some, (Command.of_restrict_eq_some hkept).1]

theorem logFrom_restrict (cycle : Nat) :
    logFrom cycle (restrict keep commands) =
      (logFrom cycle commands).filter fun entry => keep entry.event := by
  induction commands generalizing cycle with
  | nil => rfl
  | cons command commands ih =>
      rw [restrict] at ih ⊢
      rw [logFrom, List.filter_append, List.filter_map]
      -- The entries of a command are kept as its additions are.
      change _ = (command.additions.filter fun addition => keep addition.event).map _ ++ _
      cases hkept : command.restrict keep with
      | none =>
          obtain ⟨hreset, hadditions⟩ := Command.of_restrict_eq_none hkept
          rw [List.filterMap_cons_none hkept, ih, hadditions, hreset, List.map_nil,
            List.nil_append, if_neg Bool.false_ne_true]
      | some kept =>
          obtain ⟨hreset, hadditions⟩ := Command.of_restrict_eq_some hkept
          rw [List.filterMap_cons_some hkept, logFrom, ih, hadditions, hreset]

theorem log_restrict :
    log (restrict keep commands) = (log commands).filter fun entry => keep entry.event :=
  logFrom_restrict keep commands 0

/-- The entries of a history are what its commands add. -/
theorem map_toAddition_logFrom (cycle : Nat) :
    (logFrom cycle commands).map Entry.toAddition = commands.flatMap Command.additions := by
  induction commands generalizing cycle with
  | nil => rfl
  | cons command commands ih =>
      rw [logFrom, List.map_append, List.map_map, ih, List.flatMap_cons]
      congr 1
      exact List.map_id _

/-- Which entries of a history are meant does not depend on which events are kept. -/
theorem map_event_filter_filter (meant : Entry → Bool) (entries : List Entry) :
    ((entries.filter fun entry => keep entry.event).filter meant).map (fun entry => entry.event) =
      ((entries.filter meant).map fun entry => entry.event).filter keep := by
  rw [List.filter_comm, List.filter_map]
  rfl

theorem stickyEvents_restrict :
    stickyEvents (restrict keep commands) = (stickyEvents commands).filter keep := by
  rw [stickyEvents, log_restrict, map_event_filter_filter, stickyEvents]

theorem restored_restrict :
    restored (restrict keep commands) = (restored commands).filter keep := by
  rw [restored, log_restrict, resets_restrict, map_event_filter_filter, restored]

theorem current_restrict : current (restrict keep commands) = (current commands).filter keep := by
  rw [current, log_restrict, resets_restrict, map_event_filter_filter, current]

variable {keep} {event : Event}

theorem activeIn_restrict (hkeep : keep event) :
    activeIn (restrict keep commands) event = activeIn commands event := by
  funext cycle
  rw [activeIn, log_restrict, List.any_filter, activeIn]
  congr 1
  funext entry
  -- An entry of the event is kept because the event is.
  by_cases hevent : entry.event = event
  · rw [hevent, hkeep, Bool.true_and]
  · rw [decide_eq_false hevent, Bool.false_and, Bool.and_false]

theorem presence_restrict (hkeep : keep event) :
    presence (restrict keep commands) event = presence commands event := by
  rw [presence, resets_restrict, activeIn_restrict commands hkeep, presence]

end History

open History

namespace EventSet

/-- The one set is the other without the events that are not kept. -/
structure Restricts (keep : Event → Bool) (part whole : EventSet) : Prop where
  table : part.table = whole.table
  active : part.active = whole.active.filter keep
  sticky : part.sticky = whole.sticky.filter keep
  persistence : ∀ event, keep event → part.persistence event = whole.persistence event
  cycle : part.cycle = whole.cycle

end EventSet

/-- What is active was added. -/
theorem exists_addition_of_mem_active {table : Table} {commands : List Command} {event : Event}
    (hevent : event ∈ (run table commands).active) :
    ∃ addition ∈ commands.flatMap Command.additions, addition.event = event := by
  have hentry : ∃ entry ∈ log commands, entry.event = event := by
    rw [active_run, List.mem_append, restored, current, List.mem_map, List.mem_map] at hevent
    rcases hevent with ⟨entry, hentry, rfl⟩ | ⟨entry, hentry, rfl⟩
    · exact ⟨entry, List.mem_of_mem_filter hentry, rfl⟩
    · exact ⟨entry, List.mem_of_mem_filter hentry, rfl⟩
  obtain ⟨entry, hentry, rfl⟩ := hentry
  rw [← map_toAddition_logFrom commands 0]
  exact ⟨entry.toAddition, List.mem_map_of_mem hentry, rfl⟩

theorem restricts_run (table : Table) (keep : Event → Bool) (commands : List Command) :
    (run table (restrict keep commands)).Restricts keep (run table commands) := by
  constructor
  · rw [table_run, table_run]
  · rw [active_run, active_run, restored_restrict, current_restrict, List.filter_append]
  · rw [sticky_run, sticky_run, stickyEvents_restrict]
  · intro event hkeep
    rw [persistence_run, persistence_run, presence_restrict commands hkeep]
  · rw [cycle_run, cycle_run, resets_restrict]

end DriverAlerts
