import DriverAlerts.Proofs.Policy.Wording
import DriverAlerts.Proofs.Resolution.Debounce
import DriverAlerts.Proofs.Resolution.Standard
import DriverAlerts.Proofs.Selection
/-!
# Escalation

A soft disable of the standard table has one text, and two alerts that show it: the immediate one while
its event is young, and the soft one afterwards. Both are due from the first cycle, so the age of the
event alone tells which of them is resolved. The age only grows while the event stays active, and
starts anew when it has been away for a cycle. Nothing outweighs the immediate one in arbitration.
-/

namespace DriverAlerts

open History

/-! ### The planned soft disables -/

/-- The slot has no fixed alert of the highest priority that is less than critical. -/
def SlotPlan.isSternIfFixed : SlotPlan → Bool
  | fixed prototype =>
    (prototype.alert (.ofTexts fun _ => "")).priority != .highest ||
      (prototype.alert (.ofTexts fun _ => "")).status == .critical
  | _ => true

namespace Standard

def causedByDriver (event : Event) : Bool :=
  event ∈ [.wrongGear, .doorOpen, .seatbeltNotLatched]

def softDisablePlan (event : Event) (key : String) : SlotPlan :=
  if causedByDriver event then .userSoftDisable key else .softDisable key

def softDisableKey? (event : Event) : SlotPlan → Option String
  | .softDisable key => if causedByDriver event then none else some key
  | .userSoftDisable key => if causedByDriver event then some key else none
  | _ => none

def noEntryKey? : SlotPlan → Option String
  | .fixed (.noEntry key .none) => some key
  | _ => none

theorem eq_of_softDisableKey? {event : Event} {plan : SlotPlan} {key : String}
    (h : softDisableKey? event plan = some key) : plan = softDisablePlan event key := by
  rw [softDisablePlan]
  cases plan with
  | softDisable key' | userSoftDisable key' =>
      rw [softDisableKey?] at h
      cases hcaused : causedByDriver event <;> simp_all
  | _ => exact nomatch h

theorem eq_of_noEntryKey? {plan : SlotPlan} {key : String} (h : noEntryKey? plan = some key) :
    plan = .fixed (.noEntry key .none) := by
  rw [noEntryKey?.eq_def] at h
  split at h
  · rw [Option.some.inj h]
  · exact nomatch h

/-- A soft disable refuses engagement with its own text. -/
theorem exists_key_of_softDisable {event : Event} {plan : SlotPlan}
    (hplan : (event, .softDisable, plan) ∈ slots) :
    ∃ key, plan = softDisablePlan event key ∧
      (event, .noEntry, .fixed (.noEntry key .none)) ∈ slots := by
  have hall : slots.all fun slot => slot.2.1 != .softDisable ||
      (softDisableKey? slot.1 slot.2.2).any fun key =>
        slots.any fun other => other.1 = slot.1 && other.2.1 = .noEntry &&
          noEntryKey? other.2.2 = some key := by decide
  have hsoft := List.all_eq_true.mp hall _ hplan
  rw [bne_self_eq_false, Bool.false_or, Option.any_eq_true] at hsoft
  obtain ⟨key, hkey, hentry⟩ := hsoft
  obtain ⟨⟨other, category, plan'⟩, hplan', hmatch⟩ := List.any_eq_true.mp hentry
  simp only [Bool.and_eq_true, decide_eq_true_eq] at hmatch
  obtain ⟨⟨rfl, rfl⟩, hkey'⟩ := hmatch
  rw [eq_of_noEntryKey? hkey'] at hplan'
  exact ⟨key, eq_of_softDisableKey? hkey, hplan'⟩

/-- No wording makes an alert of the highest priority look less than critical. -/
theorem status_of_priority_highest {event : Event} {category : Category} {plan : SlotPlan}
    {wording : Wording} {window : Float} {context : Context} {age : Cycles} {alert : Alert}
    (hplan : (event, category, plan) ∈ slots)
    (hbuild : (plan.slot wording window).build context age = .ok alert)
    (hpriority : alert.priority = .highest) : alert.status = .critical := by
  cases plan with
  | fixed prototype =>
      have hall : slots.all fun slot => slot.2.2.isSternIfFixed := by decide
      have hstern := List.all_eq_true.mp hall _ hplan
      have halike := prototype.actsLike_alert wording (.ofTexts fun _ => "")
      rw [← Except.ok.inj hbuild] at hpriority ⊢
      rw [halike.priority] at hpriority
      rw [halike.status]
      simpa [SlotPlan.isSternIfFixed, hpriority] using hstern
  | softDisable text2 | userSoftDisable text2 =>
      rw [← Except.ok.inj hbuild] at hpriority ⊢
      split at hpriority
      · next hyoung =>
        rw [if_pos hyoung]
        rfl
      · exact nomatch hpriority
  | calibrationIncomplete title hint =>
      obtain ⟨_, _, rfl⟩ := SlotPlan.exists_lines_of_build hbuild
      exact nomatch hpriority
  | _ =>
      rw [← Except.ok.inj hbuild] at hpriority
      exact nomatch hpriority

end Standard

/-- What a soft disable shows at an age. -/
def Presets.softDisableAt (presets : Presets) (event : Event) (text2 : String) (window : Float)
    (age : Cycles) : Alert :=
  if age < Cycles.required window then presets.immediateDisable text2
  else if Standard.causedByDriver event then presets.userSoftDisable text2
  else presets.softDisable text2

theorem Standard.build_softDisablePlan (event : Event) (key : String) (wording : Wording)
    (window : Float) (context : Context) (age : Cycles) :
    ((softDisablePlan event key).slot wording window).build context age =
      .ok (wording.presets.softDisableAt event (wording.text key) window age) := by
  rw [softDisablePlan, Presets.softDisableAt]
  by_cases hcaused : causedByDriver event
  · simp only [if_pos hcaused, SlotPlan.slot, Slot.build, Cycles.escalates, decide_eq_true_eq]
  · simp only [if_neg hcaused, SlotPlan.slot, Slot.build, Cycles.escalates, decide_eq_true_eq]

theorem Presets.activationDelay_softDisableAt (presets : Presets) (event : Event) (text2 : String)
    (window : Float) (age : Cycles) :
    (presets.softDisableAt event text2 window age).activationDelay = 0 := by
  rw [softDisableAt]
  split
  · rfl
  · split <;> rfl

namespace Presets

section SoftDisable

variable (presets : Presets) (event : Event) (text2 : String) {window : Float} {age : Cycles}

theorem softDisableAt_of_lt (hage : age < Cycles.required window) :
    presets.softDisableAt event text2 window age = presets.immediateDisable text2 := by
  rw [softDisableAt, if_pos hage]

theorem softDisableAt_of_not_lt (hage : ¬ age < Cycles.required window) :
    presets.softDisableAt event text2 window age =
      if event ∈ [.wrongGear, .doorOpen, .seatbeltNotLatched] then presets.userSoftDisable text2
      else presets.softDisable text2 := by
  simp only [softDisableAt, if_neg hage, Standard.causedByDriver, decide_eq_true_eq]

/-- Young or not, a soft disable shows its text. -/
theorem text2_softDisableAt (age : Cycles) :
    (presets.softDisableAt event text2 window age).text2 = text2 := by
  rw [softDisableAt]
  split
  · rfl
  · split <;> rfl

/-- Inside the window a soft disable is as grave as an alert can be. -/
theorem look_softDisableAt_of_lt (hage : age < Cycles.required window) :
    (presets.softDisableAt event text2 window age).text1 = presets.takeControl ∧
      (presets.softDisableAt event text2 window age).status = .critical ∧
      (presets.softDisableAt event text2 window age).priority = .highest ∧
      (presets.softDisableAt event text2 window age).audible = .warningImmediate := by
  rw [softDisableAt_of_lt _ _ _ hage]
  exact ⟨rfl, rfl, rfl, rfl⟩

/-- After the window it prompts the driver, and the title tells whether the driver caused it. -/
theorem look_softDisableAt_of_not_lt (hage : ¬ age < Cycles.required window) :
    (presets.softDisableAt event text2 window age).text1 =
        (if event ∈ [.wrongGear, .doorOpen, .seatbeltNotLatched] then presets.userSoftDisableTitle
        else presets.takeControl) ∧
      (presets.softDisableAt event text2 window age).status = .userPrompt ∧
      (presets.softDisableAt event text2 window age).priority = .mid ∧
      (presets.softDisableAt event text2 window age).audible = .warningSoft := by
  rw [softDisableAt_of_not_lt _ _ _ hage]
  split <;> exact ⟨rfl, rfl, rfl, rfl⟩

theorem resolved_softDisableAt_eq_iff :
    (presets.softDisableAt event text2 window age).resolved event .softDisable =
        (presets.immediateDisable text2).resolved event .softDisable ↔
      age < Cycles.required window := by
  refine ⟨fun h => ?_, fun hage => by rw [softDisableAt_of_lt _ _ _ hage]⟩
  by_contra hage
  have hstatus : (presets.softDisableAt event text2 window age).status = .critical :=
    congrArg Alert.status h
  rw [(presets.look_softDisableAt_of_not_lt event text2 hage).2.1] at hstatus
  cases hstatus

end SoftDisable

end Presets

namespace EventSet

section Standard

variable {wording : Wording} {window : Float} {set : EventSet} {context : Context} {event : Event}
  {category : Category} {slot : Slot} {alert : Alert}

theorem due_of_no_delay (hdelay : alert.activationDelay = 0) (age : Cycles) :
    Cycles.required alert.activationDelay ≤ age := by
  rw [hdelay, Cycles.required_zero]
  exact UInt32.zero_le

theorem mem_of_resolve_ok {categories : List Category} {alerts : List Alert}
    (hslot : set.table.slot? event category = some slot) (hcategory : category ∈ categories)
    (hactive : event ∈ set.active)
    (hbuild : slot.build context (Cycles.saturate ((set.persistence event).toNat + 1)) = .ok alert)
    (hdelay : alert.activationDelay = 0)
    (hresolve : (set.resolve categories context).value = .ok alerts) :
    alert.resolved event category ∈ alerts := by
  rw [(resolve_eq_ok_iff.mp hresolve).2, List.mem_filterMap]
  refine ⟨(event, category), mem_pairs.mpr ⟨hactive, hcategory, ?_⟩, ?_⟩
  · rw [Table.hasCategory, hslot, Option.isSome_some]
  · rw [surfaced_of_build hslot hbuild, if_pos (due_of_no_delay hdelay _)]

/-- What a slot without a delay gives is resolved from the first cycle on. -/
theorem exists_alerts_standard (htable : Standard.table wording window = .ok set.table)
    (hcategory : category ≠ .permanent) (hslot : set.table.slot? event category = some slot)
    (hbuild : slot.build context (Cycles.saturate ((set.persistence event).toNat + 1)) = .ok alert)
    (hdelay : alert.activationDelay = 0) :
    ∃ alerts, (set.resolve [category] context).value = .ok alerts ∧
      alerts.filter (fun shown => shown.tag = Alert.origin event category) =
        List.replicate (set.active.count event) (alert.resolved event category) := by
  have hunasked : Category.permanent ∉ [category] := by
    rw [List.mem_singleton]
    exact hcategory.symm
  obtain ⟨alerts, hresolve⟩ := exists_ok_standard htable context
    fun h => hunasked h.2.1
  have hdue := due_of_no_delay hdelay (Cycles.saturate ((set.persistence event).toNat + 1))
  exact ⟨alerts, hresolve,
    filter_tag_of_resolve_ok hslot List.count_singleton_self hbuild hdue hresolve⟩

/-- Nothing outweighs an alert of the highest priority, and what is chosen beside it is critical. -/
theorem exists_critical_highest (htable : Standard.table wording window = .ok set.table)
    {categories : List Category} {alerts : List Alert}
    (hresolve : (set.resolve categories context).value = .ok alerts) {shown : Alert}
    (hshown : shown ∈ alerts) (hpriority : shown.priority = .highest) :
    ∃ winner, Selection.highest id alerts = some winner ∧ winner.priority = .highest ∧
      winner.status = .critical := by
  cases hwinner : Selection.highest id alerts with
  | none =>
      rw [(Selection.highest_eq_none_iff id).mp hwinner] at hshown
      exact absurd hshown List.not_mem_nil
  | some winner =>
      have hweight := Selection.weight_le_of_highest hwinner hshown
      simp only [id, hpriority] at hweight
      have hhighest : winner.priority = .highest := by
        revert hweight
        cases winner.priority <;> decide
      have hmem := Selection.mem_of_highest hwinner
      rw [(resolve_eq_ok_iff.mp hresolve).2, List.mem_filterMap] at hmem
      obtain ⟨pair, -, hsurfaced⟩ := hmem
      obtain ⟨built, houtcome, -, rfl⟩ := surfaced_eq_some_iff.mp hsurfaced
      obtain ⟨slot, hslot, hbuild⟩ := outcome_eq_some_iff.mp houtcome
      obtain ⟨plan, hplan, rfl⟩ := (Standard.slot?_table htable).mp hslot
      have hcritical : built.status = .critical :=
        Standard.status_of_priority_highest hplan hbuild hhighest
      exact ⟨_, rfl, hhighest, hcritical⟩

end Standard

/-! ### Ages of an event that stays active -/

theorem activeAtResets_append (set : EventSet) (event : Event) (commands more : List Command) :
    set.activeAtResets event (commands ++ more) = set.activeAtResets event commands ++
      (commands.foldl (fun set command => command.apply set) set).activeAtResets event more := by
  induction commands generalizing set with
  | nil => rfl
  | cons command commands ih =>
      rw [List.cons_append, activeAtResets, activeAtResets, ih, List.foldl_cons]
      cases command.isReset <;> rfl

end EventSet

theorem streak_append_of_present (earlier : List Bool) {later : List Bool}
    (hlater : ∀ present ∈ later, present = true) :
    streak (earlier ++ later) = streak earlier + later.length := by
  induction later using List.reverseRecOn with
  | nil => rw [List.append_nil, List.length_nil, Nat.add_zero]
  | append_singleton later last ih =>
      have hlast : last = true := hlater last (List.mem_append_right later List.mem_cons_self)
      have hbefore : ∀ present ∈ later, present = true :=
        fun present hpresent => hlater present (List.mem_append_left [last] hpresent)
      rw [← List.append_assoc, streak_concat, if_pos hlast, ih hbefore, List.length_append,
        List.length_singleton, Nat.add_assoc]

/-- While an event stays active its age does not fall. -/
theorem span_le_span_append {table : Table} {commands more : List Command} {event : Event}
    (hstays : ∀ present ∈ (run table commands).activeAtResets event more, present = true) :
    span table commands event ≤ span table (commands ++ more) event := by
  rw [span, span, EventSet.activeAtResets_append, ← run, streak_append_of_present _ hstays]
  omega

/-- With the current cycle included, the event has been active for fewer cycles in a row than the
window takes. -/
def InsideWindow (table : Table) (commands : List Command) (event : Event) (window : Float) : Prop :=
  Cycles.saturate (span table commands event) < Cycles.required window

/-- **A soft disable is immediate inside the window.** In a standard table each event with a soft disable
has one text for it, which its refusal to engage has too. One alert is resolved for each entry of the
event, from the first cycle on, and shows that text. It is the immediate one inside the window and the
soft one after it. In a stretch of cycles that begins after a cycle without the event it therefore
changes once at most, at the end of the window, and as long as the event stays active it does not change
back. Inside the window what is chosen among all alerts is critical and of the highest priority. -/
theorem soft_disable_is_immediate_inside_window {catalog : Catalog} {window : Float} {table : Table}
    (htable : Table.standardWithCatalog catalog window = .ok table) {event : Event}
    (hsoft : table.hasCategory event .softDisable) :
    ∃ text2, ∀ commands context,
      (∃ alerts shown, ((run table commands).resolve [.softDisable] context).value = .ok alerts ∧
        alerts.filter (fun alert => alert.tag = Alert.origin event .softDisable) =
          List.replicate ((run table commands).active.count event) shown ∧
        shown.text2 = text2 ∧
        (shown = ((Presets.ofTexts catalog.textOrEmpty).immediateDisable text2).resolved
            event .softDisable ↔ InsideWindow table commands event window) ∧
        (InsideWindow table commands event window →
          shown.text1 = catalog.textOrEmpty "preset.take_control" ∧ shown.status = .critical ∧
            shown.priority = .highest ∧ shown.audible = .warningImmediate) ∧
        (¬ InsideWindow table commands event window →
          shown = (if event ∈ [.wrongGear, .doorOpen, .seatbeltNotLatched] then
              (Presets.ofTexts catalog.textOrEmpty).userSoftDisable text2
            else (Presets.ofTexts catalog.textOrEmpty).softDisable text2).resolved
              event .softDisable ∧
            shown.text1 = (if event ∈ [.wrongGear, .doorOpen, .seatbeltNotLatched] then
              catalog.textOrEmpty "preset.user_soft_disable_title"
            else catalog.textOrEmpty "preset.take_control") ∧
            shown.status = .userPrompt ∧ shown.priority = .mid ∧ shown.audible = .warningSoft)) ∧
      (∃ alerts refusal, ((run table commands).resolve [.noEntry] context).value = .ok alerts ∧
        alerts.filter (fun alert => alert.tag = Alert.origin event .noEntry) =
          List.replicate ((run table commands).active.count event) refusal ∧
        refusal = ((Presets.ofTexts catalog.textOrEmpty).noEntry text2).resolved event .noEntry ∧
        refusal.text2 = text2) ∧
      (∀ earlier n, (EventSet.new table).value.activeAtResets event commands =
          earlier ++ List.replicate n true → earlier.getLast? ≠ some true →
        (InsideWindow table commands event window ↔ n + 1 < (Cycles.required window).toNat)) ∧
      (∀ more, (∀ present ∈ (run table commands).activeAtResets event more, present = true) →
        InsideWindow table (commands ++ more) event window →
        InsideWindow table commands event window) ∧
      ∀ categories alerts, .softDisable ∈ categories →
        ((run table commands).resolve categories context).value = .ok alerts →
        event ∈ (run table commands).active → InsideWindow table commands event window →
        ∃ winner, Selection.highest id alerts = some winner ∧ winner.priority = .highest ∧
          winner.status = .critical := by
  have hmade := (Table.standardWithCatalog_eq_ok_iff.mp htable).2
  obtain ⟨plan, hplan⟩ := (Standard.hasCategory_table hmade).mp hsoft
  obtain ⟨key, rfl, hentry⟩ := Standard.exists_key_of_softDisable hplan
  refine ⟨catalog.textOrEmpty key, fun commands context => ?_⟩
  have hrun := hmade
  rw [← table_run table commands] at hrun
  have hslot := (Standard.slot?_table hrun).mpr ⟨_, hplan, rfl⟩
  have hslotEntry := (Standard.slot?_table hrun).mpr ⟨_, hentry, rfl⟩
  have hbuild := Standard.build_softDisablePlan event key (.ofTexts catalog.textOrEmpty) window context
    (Cycles.saturate (((run table commands).persistence event).toNat + 1))
  have hage := age_run (Standard.contains_table hmade event) commands
  refine ⟨?_, ?_, ?_, ?_, ?_⟩
  · obtain ⟨alerts, hresolve, hshown⟩ := EventSet.exists_alerts_standard hrun (by decide) hslot hbuild
      (Presets.activationDelay_softDisableAt _ _ _ _ _)
    rw [hage] at hshown
    refine ⟨alerts, _, hresolve, hshown, Presets.text2_softDisableAt _ _ _ _,
      Presets.resolved_softDisableAt_eq_iff _ _ _, Presets.look_softDisableAt_of_lt _ _ _,
      fun houtside => ⟨?_, Presets.look_softDisableAt_of_not_lt _ _ _ houtside⟩⟩
    exact congrArg (Alert.resolved · event .softDisable)
      (Presets.softDisableAt_of_not_lt _ _ _ houtside)
  · have hbuildEntry : ((SlotPlan.fixed (.noEntry key .none)).slot (.ofTexts catalog.textOrEmpty)
        window).build context (Cycles.saturate (((run table commands).persistence event).toNat + 1)) =
          .ok ((Presets.ofTexts catalog.textOrEmpty).noEntry (catalog.textOrEmpty key)) := rfl
    obtain ⟨alerts, hresolve, hshown⟩ :=
      EventSet.exists_alerts_standard hrun (by decide) hslotEntry hbuildEntry rfl
    exact ⟨alerts, _, hresolve, hshown, rfl, rfl⟩
  · intro earlier n hhistory hearlier
    rw [InsideWindow, span, hhistory, streak_append_replicate hearlier, Cycles.saturate_lt_iff]
  · intro more hstays hinside
    rw [InsideWindow, Cycles.saturate_lt_iff] at hinside ⊢
    have hspan := span_le_span_append hstays
    omega
  · intro categories alerts hcategory hresolve hactive hinside
    have hshown := EventSet.mem_of_resolve_ok hslot hcategory hactive hbuild
      (Presets.activationDelay_softDisableAt _ _ _ _ _) hresolve
    rw [hage, Presets.softDisableAt_of_lt _ _ _ hinside] at hshown
    exact EventSet.exists_critical_highest hrun hresolve hshown rfl

/-- An open door in two cycles in a row, reported twice in the second. -/
def openDoor : List Command :=
  [.add .doorOpen false, .reset, .add .doorOpen false, .add .doorOpen false]

theorem soft_disable_of_openDoor :
    ∃ table text2, Table.standardWithCatalog (.embedded .en) 0.02 = .ok table ∧
      table.hasCategory .doorOpen .softDisable ∧
      (∃ alerts, ((run table (openDoor.take 1)).resolve [.softDisable] (unsettled none)).value =
          .ok alerts ∧
        alerts.filter (fun alert => alert.tag = Alert.origin .doorOpen .softDisable) =
          [((Presets.ofTexts (Catalog.embedded .en).textOrEmpty).immediateDisable text2).resolved
            .doorOpen .softDisable]) ∧
      ∃ alerts, ((run table openDoor).resolve [.softDisable] (unsettled none)).value = .ok alerts ∧
        alerts.filter (fun alert => alert.tag = Alert.origin .doorOpen .softDisable) =
          List.replicate 2
            (((Presets.ofTexts (Catalog.embedded .en).textOrEmpty).userSoftDisable text2).resolved
              .doorOpen .softDisable) := by
  obtain ⟨table, htable⟩ := Table.exists_standard_embedded .en 0.02
  have hmade := (Table.standardWithCatalog_eq_ok_iff.mp htable).2
  have hsoft : table.hasCategory .doorOpen .softDisable :=
    (Standard.hasCategory_table hmade).mpr ⟨.userSoftDisable "door_open", Standard.mem_slots.mpr
      ⟨Standard.userSoft "door_open", by simp [Standard.rows], by simp [Standard.userSoft]⟩⟩
  have hwindow : Cycles.required 0.02 = 2 := by decide +kernel
  obtain ⟨text2, halerts⟩ := soft_disable_is_immediate_inside_window htable hsoft
  refine ⟨table, text2, htable, hsoft, ?_, ?_⟩
  · obtain ⟨⟨alerts, shown, hresolve, hfilter, -, himmediate, -⟩, -, hstretch, -⟩ :=
      halerts (openDoor.take 1) (unsettled none)
    have hinside := (hstretch [] 0 rfl (by decide)).mpr (by rw [hwindow]; decide)
    rw [himmediate.mpr hinside] at hfilter
    exact ⟨alerts, hresolve, hfilter⟩
  · obtain ⟨⟨alerts, shown, hresolve, hfilter, -, -, -, hsettled⟩, -, hstretch, -⟩ :=
      halerts openDoor (unsettled none)
    have houtside := mt (hstretch [] 1 rfl (by decide)).mp (by rw [hwindow]; decide)
    rw [(hsettled houtside).1, if_pos (by decide)] at hfilter
    exact ⟨alerts, hresolve, hfilter⟩

end DriverAlerts
