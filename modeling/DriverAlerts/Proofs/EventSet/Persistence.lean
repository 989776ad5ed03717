import DriverAlerts.Proofs.Cycles.Saturation
import DriverAlerts.Proofs.Entries
import DriverAlerts.Proofs.EventSet.History
import DriverAlerts.Proofs.Policy.Builder
import Mathlib.Data.List.DropRight
/-!
# The counts follow from the history

For each completed cycle the history says whether an event was active in it, and the count of the
event is the number of such cycles at the end of that list, cut off at the greatest count. Only a
reset changes a count, and what it reads is the active list, of which the history knows the events.
Events without a row are in no count, whatever their history.
-/

namespace DriverAlerts

namespace History

/-- For each completed cycle, the earliest first, whether the event was active in it. -/
def presence (commands : List Command) (event : Event) : List Bool :=
  (List.range (resets commands)).map (activeIn commands event)

/-- The number of latest cycles in a row in which something was present. -/
def streak (presence : List Bool) : Nat :=
  (presence.rtakeWhile id).length

theorem streak_concat (presence : List Bool) (present : Bool) :
    streak (presence ++ [present]) = if present then streak presence + 1 else 0 := by
  rw [streak, List.rtakeWhile_concat]
  cases present with
  | false => rfl
  | true => simp only [id, if_true, List.length_append, List.length_singleton, streak]

/-- A cycle that is complete is not changed by what happens later. -/
theorem activeIn_concat (commands : List Command) (command : Command) (event : Event) {cycle : Nat}
    (hcycle : cycle < resets commands) :
    activeIn (commands ++ [command]) event cycle = activeIn commands event cycle := by
  have hnew : (command.additions.map fun addition => (⟨addition, resets commands⟩ : Entry)).any
      (fun entry => entry.event = event &&
        (entry.cycle = cycle || entry.sticky && decide (entry.cycle < cycle))) = false := by
    rw [List.any_eq_false]
    intro entry hentry
    obtain ⟨addition, _, rfl⟩ := List.mem_map.mp hentry
    simp only [Bool.and_eq_true, Bool.or_eq_true, decide_eq_true_eq]
    omega
  rw [activeIn, log_concat, List.any_append, hnew, Bool.or_false, activeIn]

theorem activeIn_append (commands more : List Command) (event : Event) {cycle : Nat}
    (hcycle : cycle < resets commands) :
    activeIn (commands ++ more) event cycle = activeIn commands event cycle := by
  induction more using List.reverseRecOn with
  | nil => rw [List.append_nil]
  | append_singleton more command ih =>
      have hbefore : cycle < resets (commands ++ more) := by
        rw [resets, List.countP_append]
        exact Nat.lt_of_lt_of_le hcycle (Nat.le_add_right _ _)
      rw [← List.append_assoc, activeIn_concat _ command event hbefore, ih]

theorem presence_concat_of_not_reset {command : Command} (hcommand : command.isReset = false)
    (commands : List Command) (event : Event) :
    presence (commands ++ [command]) event = presence commands event := by
  rw [presence, resets_concat_of_not_reset hcommand, presence]
  apply List.map_congr_left
  intro cycle hcycle
  exact activeIn_concat commands command event (List.mem_range.mp hcycle)

theorem presence_concat_of_reset {command : Command} (hcommand : command.isReset)
    (commands : List Command) (event : Event) :
    presence (commands ++ [command]) event =
      presence commands event ++ [activeIn commands event (resets commands)] := by
  have hlog : activeIn (commands ++ [command]) event = activeIn commands event := by
    funext cycle
    rw [activeIn, log_concat_of_reset hcommand, activeIn]
  rw [presence, resets_concat_of_reset hcommand, hlog, List.range_succ, List.map_append,
    List.map_singleton, presence]

end History

open History

/-! ### Counts of an event set -/

theorem Table.contains_events (table : Table) (event : Event) :
    table.events.contains event = table.contains event := by
  rw [Bool.eq_iff_iff, List.contains_iff_mem, mem_events]

namespace EventSet

theorem persistence_new (table : Table) (event : Event) :
    (new table).value.persistence event = 0 := by
  rw [persistence]
  cases hcount : (new table).value.counts.lookup event with
  | none => rfl
  | some count =>
      obtain ⟨before, after, hsplit, -⟩ := List.lookup_eq_some_iff.mp hcount
      have hmem : (event, count) ∈ (new table).value.counts := by
        rw [hsplit]
        exact List.mem_append_right before List.mem_cons_self
      obtain ⟨_, _, hzero⟩ := List.mem_map.mp hmem
      exact (Prod.mk.inj hzero).2.symm

/-- A reset counts on for the active events and starts anew for the others, as far as they are
counted at all. -/
theorem persistence_reset (set : EventSet) (event : Event) :
    set.reset.persistence event =
      if (set.counts.map Prod.fst).contains event && set.contains event then
        (set.persistence event).next
      else 0 := by
  have hlookup : set.reset.counts.lookup event = (set.counts.lookup event).map fun count =>
      if event ∈ set.active then count.next else 0 :=
    lookup_map_value (fun e count => if e ∈ set.active then Cycles.next count else 0) event set.counts
  rw [persistence, hlookup, persistence, ← isSome_lookup]
  cases set.counts.lookup event with
  | none => rfl
  | some count =>
      rw [Option.map_some, Option.isSome_some, Bool.true_and, Option.getD_some, Option.getD_some,
        contains]
      simp only [List.contains_iff_mem]

end EventSet

/-- The events with a row, and no others, are counted throughout. -/
theorem counted_run (table : Table) (commands : List Command) :
    (run table commands).counts.map Prod.fst = table.events := by
  apply run_induction (motive := fun set => set.counts.map Prod.fst = table.events)
  · simp only [EventSet.new, List.map_map, Function.comp_def, List.map_id']
  · intro set additions ih
    exact ih
  · intro set ih
    rw [← ih]
    simp only [EventSet.reset, List.map_map, Function.comp_def]

theorem persistence_run (table : Table) (commands : List Command) (event : Event) :
    (run table commands).persistence event =
      if table.contains event then Cycles.saturate (streak (presence commands event)) else 0 := by
  induction commands using List.reverseRecOn with
  | nil =>
      rw [run_nil, EventSet.persistence_new]
      cases table.contains event <;> rfl
  | append_singleton commands command ih =>
      rw [run_concat]
      cases hcommand : command.isReset with
      | false =>
          rw [Command.apply_eq_extend hcommand, EventSet.persistence_extend, ih,
            presence_concat_of_not_reset hcommand]
      | true =>
          rw [Command.eq_reset hcommand, Command.apply, EventSet.persistence_reset, counted_run,
            Table.contains_events, contains_run, ih, presence_concat_of_reset rfl, streak_concat]
          cases table.contains event with
          | false => rfl
          | true =>
              rw [Bool.true_and, if_pos rfl, if_pos rfl]
              cases activeIn commands event (resets commands) with
              | false => rfl
              | true => exact Cycles.next_saturate _

/-- **The count of an event is its latest streak.** It is the number of latest completed cycles in
all of which the event was active, cut off at the greatest count, and for an event without a row it
is zero. What the history calls active in a cycle is what the event set called active when the cycle
was completed. A command that does not complete a cycle changes no count. -/
theorem persistence_is_latest_streak (table : Table) (commands : List Command) (event : Event) :
    ((run table commands).persistence event).toNat =
        (if table.contains event then min (UInt32.size - 1) (streak (presence commands event)) else 0) ∧
      (∀ before after, activeIn (before ++ .reset :: after) event (resets before) =
        (run table before).contains event) ∧
      ∀ command : Command, command.isReset ∨
        (command.apply (run table commands)).counts = (run table commands).counts := by
  refine ⟨?_, fun before after => ?_, fun command => ?_⟩
  · rw [persistence_run]
    cases table.contains event with
    | false => rfl
    | true =>
        rw [if_pos rfl, if_pos rfl, Cycles.toNat_saturate, Nat.min_comm]
        rfl
  · have hsplit : before ++ .reset :: after = (before ++ [.reset]) ++ after := by
      rw [List.append_assoc, List.singleton_append]
    have hcycle : resets before < resets (before ++ [.reset]) := by
      rw [resets_concat_of_reset rfl]
      exact Nat.lt_succ_self _
    rw [hsplit, activeIn_append _ after event hcycle, activeIn, log_concat_of_reset rfl, ← activeIn,
      contains_run]
  · cases hcommand : command.isReset with
    | true => exact .inl rfl
    | false =>
        rw [Command.apply_eq_extend hcommand]
        exact .inr rfl

end DriverAlerts
