import DriverAlerts.Proofs.EventSet.Persistence
/-!
# Repeated additions

A repeated entry stays for its cycle, and a repeated sticky one comes back in every later cycle. Sets
are equivalent when they differ in repeated entries alone. A reset asks which events are active, and
additions go behind what is there, so whatever is done to both sets keeps them equivalent. An addition
that one of them has made before can be made again on that side only.
-/

namespace DriverAlerts

/-! ### First occurrences -/

section FirstOccurrences

variable {α β : Type} [BEq α] [LawfulBEq α] {items items' : List α} {item : α}

theorem mem_iff_of_eraseDups_eq (h : items.eraseDups = items'.eraseDups) :
    item ∈ items ↔ item ∈ items' := by
  rw [← List.mem_eraseDups, h, List.mem_eraseDups]

theorem eraseDups_append_congr (h : items.eraseDups = items'.eraseDups) (more : List α) :
    (items ++ more).eraseDups = (items' ++ more).eraseDups := by
  have hmore : more.removeAll items = more.removeAll items' := by
    apply List.filter_congr
    intro item _
    congr 1
    rw [Bool.eq_iff_iff, List.elem_eq_mem, List.elem_eq_mem, decide_eq_true_eq, decide_eq_true_eq]
    exact mem_iff_of_eraseDups_eq h
  rw [List.eraseDups_append, List.eraseDups_append, h, hmore]

theorem eraseDups_concat_of_mem (h : item ∈ items) :
    (items ++ [item]).eraseDups = items.eraseDups := by
  rw [List.eraseDups_append, List.removeAll]
  simp [h]

theorem eraseDups_concat_of_not_mem (h : item ∉ items) :
    (items ++ [item]).eraseDups = items.eraseDups ++ [item] := by
  rw [List.eraseDups_append, List.removeAll]
  simp [h, List.eraseDups_cons]

/-- What is computed along a list, and is not changed by an item that is there already, is determined by
the first occurrences. -/
theorem eq_of_eraseDups_eq {f : List α → β}
    (hstep : ∀ items items' item, f items = f items' → f (items ++ [item]) = f (items' ++ [item]))
    (hrepeat : ∀ items item, item ∈ items → f (items ++ [item]) = f items)
    (h : items.eraseDups = items'.eraseDups) : f items = f items' := by
  have hfirst : ∀ items : List α, f items.eraseDups = f items := by
    intro items
    -- From the end, for what stands in front of an item tells whether it is repeated.
    induction items using List.reverseRecOn with
    | nil => rfl
    | append_singleton items item ih =>
        by_cases hitem : item ∈ items
        · rw [eraseDups_concat_of_mem hitem, hrepeat items item hitem, ih]
        · rw [eraseDups_concat_of_not_mem hitem]
          exact hstep _ _ item ih
  rw [← hfirst items, h, hfirst items']

end FirstOccurrences

namespace EventSet

/-- The sets differ in repeated active and sticky entries alone. -/
structure Equivalent (left right : EventSet) : Prop where
  table : left.table = right.table
  persistence : ∀ event, left.persistence event = right.persistence event
  cycle : left.cycle = right.cycle
  active : left.active.eraseDups = right.active.eraseDups
  sticky : left.sticky.eraseDups = right.sticky.eraseDups

/-- The event is active, and sticky if it is to be. -/
def Asserts (set : EventSet) (event : Event) (sticky : Bool) : Prop :=
  event ∈ set.active ∧ (sticky → event ∈ set.sticky)

namespace Equivalent

variable {left middle right : EventSet}

theorem symm (h : left.Equivalent right) : right.Equivalent left :=
  ⟨h.table.symm, fun event => (h.persistence event).symm, h.cycle.symm, h.active.symm, h.sticky.symm⟩

theorem trans (h : left.Equivalent middle) (h' : middle.Equivalent right) : left.Equivalent right where
  table := h.table.trans h'.table
  persistence event := (h.persistence event).trans (h'.persistence event)
  cycle := h.cycle.trans h'.cycle
  active := h.active.trans h'.active
  sticky := h.sticky.trans h'.sticky

theorem contains_eq (h : left.Equivalent right) (event : Event) :
    left.contains event = right.contains event := by
  rw [contains, contains, Bool.eq_iff_iff, List.contains_iff_mem, List.contains_iff_mem]
  exact mem_iff_of_eraseDups_eq h.active

theorem extend (h : left.Equivalent right) (additions : List Addition) :
    (left.extend additions).Equivalent (right.extend additions) where
  table := h.table
  persistence := h.persistence
  cycle := h.cycle
  active := eraseDups_append_congr h.active _
  sticky := eraseDups_append_congr h.sticky _

theorem reset (h : left.Equivalent right)
    (hcounted : left.counts.map Prod.fst = right.counts.map Prod.fst) :
    left.reset.Equivalent right.reset where
  table := h.table
  persistence event := by
    rw [persistence_reset, persistence_reset, hcounted, h.contains_eq, h.persistence]
  cycle := congrArg (· + 1) h.cycle
  active := h.sticky
  sticky := h.sticky

end Equivalent

theorem equivalent_add {set : EventSet} {event : Event} {sticky : Bool}
    (h : set.Asserts event sticky) : (set.add event sticky).value.Equivalent set := by
  constructor
  · rfl
  · intro event
    rfl
  · rfl
  · exact eraseDups_concat_of_mem h.1
  · cases sticky with
    | false => rfl
    | true => exact eraseDups_concat_of_mem (h.2 rfl)

end EventSet

open EventSet

/-! ### Runs that repeat themselves -/

section Runs

variable {table : Table} {commands commands' : List Command}

theorem equivalent_apply (h : (run table commands).Equivalent (run table commands'))
    (command : Command) :
    (command.apply (run table commands)).Equivalent (command.apply (run table commands')) := by
  cases hcommand : command.isReset with
  | false =>
      rw [Command.apply_eq_extend hcommand, Command.apply_eq_extend hcommand]
      exact h.extend command.additions
  | true =>
      rw [Command.eq_reset hcommand]
      exact h.reset (by rw [counted_run, counted_run])

/-- How two runs go on: both are given a command, or one of them repeats an assertion it has made. -/
inductive Repeating (table : Table) (before before' : List Command) :
    List Command → List Command → Prop where
  | start : Repeating table before before' before before'
  | both {commands commands' : List Command} (command : Command) :
    Repeating table before before' commands commands' →
    Repeating table before before' (commands ++ [command]) (commands' ++ [command])
  | left {commands commands' : List Command} {event : Event} {sticky : Bool} :
    Repeating table before before' commands commands' →
    (run table commands).Asserts event sticky →
    Repeating table before before' (commands ++ [.add event sticky]) commands'
  | right {commands commands' : List Command} {event : Event} {sticky : Bool} :
    Repeating table before before' commands commands' →
    (run table commands').Asserts event sticky →
    Repeating table before before' commands (commands' ++ [.add event sticky])

theorem equivalent_run_of_repeating {before before' : List Command}
    (hbefore : (run table before).Equivalent (run table before'))
    (h : Repeating table before before' commands commands') :
    (run table commands).Equivalent (run table commands') := by
  induction h with
  | start => exact hbefore
  | both command _ ih =>
      rw [run_concat, run_concat]
      exact equivalent_apply ih command
  | left _ hasserts ih =>
      rw [run_concat]
      exact (equivalent_add hasserts).trans ih
  | right _ hasserts ih =>
      rw [run_concat]
      exact ih.trans (equivalent_add hasserts).symm

end Runs

end DriverAlerts
