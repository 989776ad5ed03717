import DriverAlerts.Proofs.EventSet.Run
/-!
# The active events follow from the history

The history of a run is the list of all its additions in call order, each with the number of cycles
that had been completed when it was made. An event set keeps much less: the active events and the
sticky ones, which meet only in a reset. The invariant that ties the two together has one part for
each list. The sticky list holds the sticky additions of the whole run, and the active list holds the
sticky additions of the completed cycles followed by all additions of the current one.
-/

namespace DriverAlerts

/-- An addition and the number of cycles completed before it. -/
structure Entry extends Addition where
  cycle : Nat
  deriving DecidableEq, Repr

namespace History

/-- The cycles that commands complete. -/
def resets (commands : List Command) : Nat :=
  commands.countP Command.isReset

/-- The additions that commands make when some cycles are complete already. -/
def logFrom (cycle : Nat) : List Command → List Entry
  | [] => []
  | command :: commands =>
    command.additions.map (fun addition => ⟨addition, cycle⟩) ++
      logFrom (if command.isReset then cycle + 1 else cycle) commands

/-- The additions of a run, in call order. -/
def log (commands : List Command) : List Entry :=
  logFrom 0 commands

/-- The events that were made sticky before the last reset. -/
def restored (commands : List Command) : List Event :=
  ((log commands).filter fun entry => entry.sticky && decide (entry.cycle < resets commands)).map
    fun entry => entry.event

/-- The events that were added since the last reset, sticky or not. -/
def current (commands : List Command) : List Event :=
  ((log commands).filter fun entry => entry.cycle = resets commands).map fun entry => entry.event

/-- The events that were made sticky in the whole run. -/
def stickyEvents (commands : List Command) : List Event :=
  ((log commands).filter fun entry => entry.sticky).map fun entry => entry.event

/-- The event was added in a cycle, or was made sticky in an earlier one. -/
def activeIn (commands : List Command) (event : Event) (cycle : Nat) : Bool :=
  (log commands).any fun entry =>
    entry.event = event && (entry.cycle = cycle || entry.sticky && decide (entry.cycle < cycle))

/-! ### One command more -/

theorem resets_concat_of_reset {command : Command} (hcommand : command.isReset)
    (commands : List Command) : resets (commands ++ [command]) = resets commands + 1 := by
  rw [resets, List.countP_append, List.countP_singleton, if_pos hcommand, resets]

theorem resets_concat_of_not_reset {command : Command} (hcommand : command.isReset = false)
    (commands : List Command) : resets (commands ++ [command]) = resets commands := by
  rw [resets, List.countP_append, List.countP_singleton, hcommand, if_neg Bool.false_ne_true,
    Nat.add_zero, resets]

theorem logFrom_concat (cycle : Nat) (commands : List Command) (command : Command) :
    logFrom cycle (commands ++ [command]) = logFrom cycle commands ++
      command.additions.map fun addition => ⟨addition, cycle + resets commands⟩ := by
  induction commands generalizing cycle with
  | nil => simp only [List.nil_append, logFrom, List.append_nil, resets, List.countP_nil,
      Nat.add_zero]
  | cons first commands ih =>
      rw [List.cons_append, logFrom, logFrom, ih, List.append_assoc]
      have hcycle : (if first.isReset then cycle + 1 else cycle) + resets commands =
          cycle + resets (first :: commands) := by
        simp only [resets, List.countP_cons]
        split <;> omega
      rw [hcycle]

theorem log_concat (commands : List Command) (command : Command) :
    log (commands ++ [command]) = log commands ++
      command.additions.map fun addition => ⟨addition, resets commands⟩ := by
  rw [log, logFrom_concat, Nat.zero_add, log]

theorem log_concat_of_reset {command : Command} (hcommand : command.isReset)
    (commands : List Command) : log (commands ++ [command]) = log commands := by
  rw [log_concat, Command.eq_reset hcommand, Command.additions, List.map_nil, List.append_nil]

/-- No addition is made in a cycle that has not begun. -/
theorem cycle_le_resets {commands : List Command} {entry : Entry} (hentry : entry ∈ log commands) :
    entry.cycle ≤ resets commands := by
  induction commands using List.reverseRecOn with
  | nil => exact absurd hentry List.not_mem_nil
  | append_singleton commands command ih =>
      have hgrows : resets commands ≤ resets (commands ++ [command]) := by
        rw [resets, resets, List.countP_append]
        exact Nat.le_add_right _ _
      rw [log_concat, List.mem_append, List.mem_map] at hentry
      rcases hentry with hentry | ⟨addition, _, rfl⟩
      · exact Nat.le_trans (ih hentry) hgrows
      · exact hgrows

/-! ### The invariant -/

theorem stickyEvents_concat (commands : List Command) (command : Command) :
    stickyEvents (commands ++ [command]) =
      stickyEvents commands ++ (command.additions.filter Addition.sticky).map Addition.event := by
  simp only [stickyEvents, log_concat, List.filter_append, List.map_append, List.filter_map,
    List.map_map]
  rfl

/-- Additions to the current cycle leave the restored events alone. -/
theorem restored_concat_of_not_reset {command : Command} (hcommand : command.isReset = false)
    (commands : List Command) : restored (commands ++ [command]) = restored commands := by
  have hnew : (command.additions.map fun addition =>
      (⟨addition, resets commands⟩ : Entry)).filter
        (fun entry => entry.sticky && decide (entry.cycle < resets commands)) = [] := by
    rw [List.filter_eq_nil_iff]
    intro entry hentry
    obtain ⟨addition, _, rfl⟩ := List.mem_map.mp hentry
    simp only [Nat.lt_irrefl, decide_false, Bool.and_false, Bool.false_eq_true, not_false_eq_true]
  rw [restored, resets_concat_of_not_reset hcommand, log_concat, List.filter_append, hnew,
    List.append_nil, restored]

theorem current_concat_of_not_reset {command : Command} (hcommand : command.isReset = false)
    (commands : List Command) :
    current (commands ++ [command]) =
      current commands ++ command.additions.map Addition.event := by
  have hnew : (command.additions.map fun addition =>
      (⟨addition, resets commands⟩ : Entry)).filter
        (fun entry => entry.cycle = resets commands) =
      command.additions.map fun addition => ⟨addition, resets commands⟩ := by
    rw [List.filter_eq_self]
    intro entry hentry
    obtain ⟨addition, _, rfl⟩ := List.mem_map.mp hentry
    exact decide_eq_true rfl
  rw [current, resets_concat_of_not_reset hcommand, log_concat, List.filter_append, hnew,
    List.map_append, List.map_map, current]
  rfl

/-- After a reset every addition of the run belongs to a completed cycle. -/
theorem restored_concat_of_reset {command : Command} (hcommand : command.isReset)
    (commands : List Command) : restored (commands ++ [command]) = stickyEvents commands := by
  rw [restored, resets_concat_of_reset hcommand, log_concat_of_reset hcommand, stickyEvents]
  congr 1
  apply List.filter_congr
  intro entry hentry
  have hcycle := cycle_le_resets hentry
  rw [decide_eq_true (Nat.lt_succ_of_le hcycle), Bool.and_true]

theorem current_concat_of_reset {command : Command} (hcommand : command.isReset)
    (commands : List Command) : current (commands ++ [command]) = [] := by
  rw [current, resets_concat_of_reset hcommand, log_concat_of_reset hcommand, List.map_eq_nil_iff,
    List.filter_eq_nil_iff]
  intro entry hentry
  have hcycle := cycle_le_resets hentry
  simp only [decide_eq_true_eq]
  omega

end History

open History

theorem sticky_run (table : Table) (commands : List Command) :
    (run table commands).sticky = stickyEvents commands := by
  induction commands using List.reverseRecOn with
  | nil => rfl
  | append_singleton commands command ih =>
      rw [run_concat, stickyEvents_concat, ← ih]
      cases hcommand : command.isReset with
      | false => rw [Command.apply_eq_extend hcommand, EventSet.sticky_extend]
      | true =>
          rw [Command.eq_reset hcommand, Command.additions, List.filter_nil, List.map_nil,
            List.append_nil]
          rfl

theorem active_run (table : Table) (commands : List Command) :
    (run table commands).active = restored commands ++ current commands := by
  induction commands using List.reverseRecOn with
  | nil => rfl
  | append_singleton commands command ih =>
      rw [run_concat]
      cases hcommand : command.isReset with
      | false =>
          rw [Command.apply_eq_extend hcommand, EventSet.active_extend, ih,
            restored_concat_of_not_reset hcommand, current_concat_of_not_reset hcommand,
            List.append_assoc]
      | true =>
          have hactive : (command.apply (run table commands)).active =
              (run table commands).sticky := by
            rw [Command.eq_reset hcommand]
            rfl
          rw [hactive, sticky_run, restored_concat_of_reset hcommand,
            current_concat_of_reset hcommand, List.append_nil]

theorem cycle_run (table : Table) (commands : List Command) :
    (run table commands).cycle = UInt64.ofNat (resets commands) := by
  induction commands using List.reverseRecOn with
  | nil => rfl
  | append_singleton commands command ih =>
      rw [run_concat, Command.cycle_apply, ih]
      cases hcommand : command.isReset with
      | false => rw [resets_concat_of_not_reset hcommand, if_neg Bool.false_ne_true]
      | true =>
          rw [resets_concat_of_reset hcommand, if_pos rfl, UInt64.ofNat_add]
          rfl

/-- What an event set calls active is what the history calls active in the current cycle. -/
theorem contains_run (table : Table) (commands : List Command) (event : Event) :
    (run table commands).contains event = activeIn commands event (resets commands) := by
  rw [Bool.eq_iff_iff, EventSet.contains, List.contains_iff_mem, active_run, activeIn,
    List.any_eq_true, List.mem_append]
  simp only [restored, current, List.mem_map, List.mem_filter, Bool.and_eq_true, Bool.or_eq_true,
    decide_eq_true_eq]
  constructor
  · rintro (⟨entry, ⟨hentry, hsticky, hcycle⟩, hevent⟩ | ⟨entry, ⟨hentry, hcycle⟩, hevent⟩)
    · exact ⟨entry, hentry, hevent, .inr ⟨hsticky, hcycle⟩⟩
    · exact ⟨entry, hentry, hevent, .inl hcycle⟩
  · rintro ⟨entry, hentry, hevent, hcycle | ⟨hsticky, hcycle⟩⟩
    · exact .inr ⟨entry, ⟨hentry, hcycle⟩, hevent⟩
    · exact .inl ⟨entry, ⟨hentry, hsticky, hcycle⟩, hevent⟩

/-- **The active events are the sticky ones of earlier cycles and all of this one.** Both parts are
in call order and keep repetitions. The next reset leaves exactly the sticky additions of the whole
run, however many resets there were between them, and the cycle number counts the resets. -/
theorem active_is_restored_then_current (table : Table) (commands : List Command) :
    (run table commands).active = restored commands ++ current commands ∧
      (run table (commands ++ [.reset])).active = stickyEvents commands ∧
      (resets commands < UInt64.size → (run table commands).cycle.toNat = resets commands) := by
  refine ⟨active_run table commands, ?_, fun hresets => ?_⟩
  · rw [active_run, restored_concat_of_reset rfl, current_concat_of_reset rfl, List.append_nil]
  · rw [cycle_run, UInt64.toNat_ofNat_of_lt' hresets]

/-- A run over a cycle with sticky additions and one with records, of which one batch is refused. -/
def stickyThenRecords : List Command :=
  [.add .overheat true, .add .canError false, .add .overheat true, .reset,
    .tryAddRecords [⟨"fcw", .none⟩, ⟨"unknown", .none⟩],
    .addRecords [⟨"fcw", .none⟩, ⟨"unknown", .none⟩, ⟨"overheat", .none⟩], .add .ldw true]

theorem active_of_stickyThenRecords :
    resets stickyThenRecords < UInt64.size ∧
      (run (.ofRows fun _ => none) stickyThenRecords).active =
        [.overheat, .overheat, .fcw, .overheat, .ldw] ∧
      (run (.ofRows fun _ => none) (stickyThenRecords ++ [.reset])).active =
        [.overheat, .overheat, .ldw] ∧
      (run (.ofRows fun _ => none) stickyThenRecords).cycle.toNat = 1 := by
  obtain ⟨hactive, hreset, hcycle⟩ :=
    active_is_restored_then_current (.ofRows fun _ => none) stickyThenRecords
  have hresets : resets stickyThenRecords < UInt64.size := by decide
  refine ⟨hresets, ?_, ?_, ?_⟩
  · rw [hactive]
    decide +kernel
  · rw [hreset]
    decide +kernel
  · rw [hcycle hresets]
    rfl

end DriverAlerts
