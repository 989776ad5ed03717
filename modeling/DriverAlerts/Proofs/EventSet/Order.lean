import DriverAlerts.Proofs.EventSet.Persistence
/-!
# The order of additions within a cycle

Two runs that complete the same number of cycles and make the same additions in each of them have
histories that differ in order alone. Counts ask only which events a history has in a cycle, so they
are the same. The active and the sticky events are parts of the history and differ in order as it does.
-/

namespace DriverAlerts

namespace History

/-- The additions that are made in a cycle, in call order. -/
def additionsIn (commands : List Command) (cycle : Nat) : List Addition :=
  ((log commands).filter fun entry => entry.cycle = cycle).map Entry.toAddition

theorem map_additionsIn (commands : List Command) (cycle : Nat) :
    ((additionsIn commands cycle).map fun addition => (⟨addition, cycle⟩ : Entry)) =
      (log commands).filter fun entry => entry.cycle = cycle := by
  rw [additionsIn, List.map_map]
  conv_rhs => rw [← List.map_id (List.filter _ _)]
  apply List.map_congr_left
  intro entry hentry
  have hcycle : entry.cycle = cycle := of_decide_eq_true (List.mem_filter.mp hentry).2
  rw [← hcycle]
  rfl

section Reordered

variable {commands commands' : List Command}

theorem log_perm
    (h : ∀ cycle, (additionsIn commands cycle).Perm (additionsIn commands' cycle)) :
    (log commands).Perm (log commands') := by
  -- An entry is counted among the additions of its own cycle only.
  rw [List.perm_iff_count]
  intro entry
  have hcycle := (h entry.cycle).map fun addition => (⟨addition, entry.cycle⟩ : Entry)
  rw [map_additionsIn, map_additionsIn] at hcycle
  have hcount := hcycle.count_eq entry
  have hcount_log : ∀ entries : List Entry,
      (entries.filter fun e => e.cycle = entry.cycle).count entry = entries.count entry :=
    fun _ => List.count_filter (decide_eq_true rfl)
  rwa [hcount_log, hcount_log] at hcount

variable (hresets : resets commands = resets commands')
  (hlog : (log commands).Perm (log commands'))

include hlog

theorem stickyEvents_perm : (stickyEvents commands).Perm (stickyEvents commands') :=
  (hlog.filter _).map _

theorem activeIn_eq_of_perm (event : Event) : activeIn commands event = activeIn commands' event := by
  funext cycle
  exact hlog.any_eq

include hresets

theorem restored_perm : (restored commands).Perm (restored commands') := by
  rw [restored, restored, hresets]
  exact (hlog.filter _).map _

theorem current_perm : (current commands).Perm (current commands') := by
  rw [current, current, hresets]
  exact (hlog.filter _).map _

theorem presence_eq_of_perm (event : Event) : presence commands event = presence commands' event := by
  rw [presence, presence, hresets, activeIn_eq_of_perm hlog]

end Reordered

end History

open History

namespace EventSet

/-- The sets differ in the order of their active events and of their sticky events alone. -/
structure Reordered (left right : EventSet) : Prop where
  table : left.table = right.table
  active : left.active.Perm right.active
  sticky : left.sticky.Perm right.sticky
  persistence : ∀ event, left.persistence event = right.persistence event
  cycle : left.cycle = right.cycle

end EventSet

theorem reordered_run (table : Table) {commands commands' : List Command}
    (hresets : resets commands = resets commands')
    (hcycles : ∀ cycle, (additionsIn commands cycle).Perm (additionsIn commands' cycle)) :
    (run table commands).Reordered (run table commands') := by
  have hlog := log_perm hcycles
  constructor
  · rw [table_run, table_run]
  · rw [active_run, active_run]
    exact (restored_perm hresets hlog).append (current_perm hresets hlog)
  · rw [sticky_run, sticky_run]
    exact stickyEvents_perm hlog
  · intro event
    rw [persistence_run, persistence_run, presence_eq_of_perm hresets hlog]
  · rw [cycle_run, cycle_run, hresets]

end DriverAlerts
