import DriverAlerts.Proofs.EventSet.History
import DriverAlerts.Proofs.Policy.Standard
import DriverAlerts.Proofs.Resolution.Reference
/-!
# The one failure of the standard table

Of the planned slots only the progress of the calibration reads a live value that may not be there,
and only one event and category have that slot. All others give an alert in every context, which is
shown for at least a cycle. So a resolution over the standard table fails exactly when that slot is
asked for and the value is not there.
-/

namespace DriverAlerts

/-! ### Durations -/

@[simp] theorem Alert.duration_new (text1 text2 : String) (style : Style) (seconds : Float) :
    (Alert.new text1 text2 style seconds).duration = Cycles.duration seconds := rfl

namespace Prototype

/-- For how many seconds the alert is shown. -/
def seconds : Prototype → Float
  | plain _ _ _ seconds => seconds
  | noEntry _ _ => 3.0
  | immediateDisable _ => 4.0
  | engagement _ => 0.2
  | normalPermanent _ _ => 0.2
  | startup _ => 10.0
  | startupWith _ _ _ => 10.0
  | withPriority base _ => base.seconds
  | withDuration _ seconds => seconds
  | withRepeatRate base _ => base.seconds
  | withActivationDelay base _ => base.seconds

theorem duration_alert (wording : Wording) (prototype : Prototype) :
    (prototype.alert wording).duration = Cycles.duration prototype.seconds := by
  induction prototype with
  | withPriority base _ ih => exact ih
  | withDuration _ _ _ => rfl
  | withRepeatRate base _ ih => exact ih
  | withActivationDelay base _ ih => exact ih
  | _ =>
      simp only [alert, seconds, Presets.noEntryWithVisual, Presets.immediateDisable,
        Presets.engagement, Presets.normalPermanent, Presets.startup, Presets.startupWith,
        Alert.duration_new]

end Prototype

namespace SlotPlan

/-- The slot shows the progress of the calibration. -/
def showsCalibration : SlotPlan → Bool
  | calibrationIncomplete _ _ => true
  | _ => false

/-- The slot gives no alert that would vanish at once. -/
def isVisible : SlotPlan → Bool
  | fixed prototype => 0 < Cycles.duration prototype.seconds
  | _ => true

section Build

variable {plan : SlotPlan} {wording : Wording} {window : Float} {context : Context} {age : Cycles}

theorem build_eq_error_iff {missing : MissingField} :
    (plan.slot wording window).build context age = .error missing ↔
      plan.showsCalibration ∧ context.live.calibrationPercent = none ∧
        missing = ⟨"calibration_percent"⟩ := by
  cases plan with
  | calibrationIncomplete title hint =>
      rw [slot, Slot.build, showsCalibration]
      cases context.live.calibrationPercent <;> simp [eq_comm]
  | _ => exact iff_of_false (fun h => nomatch h) (fun h => Bool.false_ne_true h.1)

theorem duration_pos_of_build {alert : Alert} (hvisible : plan.isVisible)
    (hbuild : (plan.slot wording window).build context age = .ok alert) : 0 < alert.duration := by
  have hseconds : ∀ seconds ∈ [0.2, 0.4, 2.0, 3.0, 4.0, 10.0], 0 < Cycles.duration seconds := by
    decide +kernel
  cases plan with
  | fixed prototype =>
      rw [← Except.ok.inj hbuild, Prototype.duration_alert]
      exact of_decide_eq_true hvisible
  | softDisable _ | userSoftDisable _ =>
      rw [← Except.ok.inj hbuild]
      split
      · exact hseconds 4.0 (by simp)
      · exact hseconds 2.0 (by simp)
  | startupMaster _ =>
      rw [← Except.ok.inj hbuild]
      exact hseconds 10.0 (by simp)
  | belowEngageSpeed _ | wrongCarMode _ _ =>
      rw [← Except.ok.inj hbuild]
      exact hseconds 3.0 (by simp)
  | belowSteerSpeed _ =>
      rw [← Except.ok.inj hbuild]
      exact hseconds 0.4 (by simp)
  | joystick _ _ =>
      rw [← Except.ok.inj hbuild]
      exact hseconds 0.2 (by simp)
  | calibrationIncomplete _ _ =>
      rw [slot, Slot.build] at hbuild
      cases hpercent : context.live.calibrationPercent with
      | none =>
          rw [hpercent] at hbuild
          exact nomatch hbuild
      | some percent =>
          rw [hpercent] at hbuild
          rw [← Except.ok.inj hbuild]
          exact hseconds 0.2 (by simp)

end Build

end SlotPlan

namespace Standard

theorem isVisible_of_mem_slots {event : Event} {category : Category} {plan : SlotPlan}
    (hplan : (event, category, plan) ∈ slots) : plan.isVisible := by
  have hall : slots.all fun slot => slot.2.2.isVisible := by decide +kernel
  exact List.all_eq_true.mp hall _ hplan

theorem showsCalibration_iff {event : Event} {category : Category} {plan : SlotPlan}
    (hplan : (event, category, plan) ∈ slots) :
    plan.showsCalibration ↔ event = .calibrationIncomplete ∧ category = .permanent := by
  have hall : slots.all fun slot => slot.2.2.showsCalibration =
      decide (slot.1 = .calibrationIncomplete ∧ slot.2.1 = .permanent) := by decide
  rw [of_decide_eq_true (List.all_eq_true.mp hall _ hplan), decide_eq_true_iff]

theorem exists_calibration_slot :
    ∃ plan, (.calibrationIncomplete, .permanent, plan) ∈ slots := by
  have hany : slots.any fun slot => slot.1 = .calibrationIncomplete && slot.2.1 = .permanent := by
    decide
  obtain ⟨⟨_, _, plan⟩, hplan, hslot⟩ := List.any_eq_true.mp hany
  obtain ⟨rfl, rfl⟩ := by simpa using hslot
  exact ⟨plan, hplan⟩

end Standard

namespace EventSet

section Standard

variable {wording : Wording} {window : Float} {set : EventSet} {context : Context}

/-- Over the standard table only the calibration fails, and for want of its progress. -/
theorem failure_standard_iff (htable : Standard.table wording window = .ok set.table)
    {pair : Event × Category} {cause : FactoryError} :
    set.failure context pair = some cause ↔
      pair = (.calibrationIncomplete, .permanent) ∧ context.live.calibrationPercent = none ∧
        cause = .missingLiveState .calibrationIncomplete .permanent "calibration_percent" := by
  simp only [failure_eq_some_iff, outcome_eq_some_iff, Standard.slot?_table htable]
  constructor
  · rintro ⟨missing, ⟨_, ⟨plan, hplan, rfl⟩, hbuild⟩, rfl⟩
    obtain ⟨hshows, hpercent, rfl⟩ := SlotPlan.build_eq_error_iff.mp hbuild
    obtain ⟨hevent, hcategory⟩ := (Standard.showsCalibration_iff hplan).mp hshows
    exact ⟨Prod.ext hevent hcategory, hpercent, by rw [hevent, hcategory]⟩
  · rintro ⟨rfl, hpercent, rfl⟩
    obtain ⟨plan, hplan⟩ := Standard.exists_calibration_slot
    have hshows := (Standard.showsCalibration_iff hplan).mpr ⟨rfl, rfl⟩
    exact ⟨_, ⟨_, ⟨plan, hplan, rfl⟩, SlotPlan.build_eq_error_iff.mpr ⟨hshows, hpercent, rfl⟩⟩, rfl⟩

theorem exists_error_standard_iff (htable : Standard.table wording window = .ok set.table)
    (categories : List Category) (context : Context) :
    (∃ cause, (set.resolve categories context).value = .error cause) ↔
      .calibrationIncomplete ∈ set.active ∧ .permanent ∈ categories ∧
        context.live.calibrationPercent = none := by
  constructor
  · rintro ⟨cause, hcause⟩
    obtain ⟨before, pair, after, hpairs, hfailure, _⟩ := resolve_eq_error_iff.mp hcause
    obtain ⟨rfl, hpercent, _⟩ := (failure_standard_iff htable).mp hfailure
    have hpair : (Event.calibrationIncomplete, Category.permanent) ∈ set.pairs categories := by
      simp [hpairs]
    obtain ⟨hactive, hcategory, _⟩ := mem_pairs.mp hpair
    exact ⟨hactive, hcategory, hpercent⟩
  · rintro ⟨hactive, hcategory, hpercent⟩
    have hslot := (Standard.hasCategory_table htable).mpr Standard.exists_calibration_slot
    have hpair : (Event.calibrationIncomplete, Category.permanent) ∈ set.pairs categories :=
      mem_pairs.mpr ⟨hactive, hcategory, hslot⟩
    have hfailure := (failure_standard_iff htable).mpr ⟨rfl, hpercent, rfl⟩
    cases hresolve : (set.resolve categories context).value with
    | error cause => exact ⟨cause, rfl⟩
    | ok alerts =>
        rw [(resolve_eq_ok_iff.mp hresolve).1 _ hpair] at hfailure
        exact nomatch hfailure

theorem exists_ok_standard (htable : Standard.table wording window = .ok set.table)
    {categories : List Category} (context : Context)
    (hknown : ¬ (.calibrationIncomplete ∈ set.active ∧ .permanent ∈ categories ∧
      context.live.calibrationPercent = none)) :
    ∃ alerts, (set.resolve categories context).value = .ok alerts := by
  rw [← exists_error_standard_iff htable] at hknown
  cases hresolve : (set.resolve categories context).value with
  | ok alerts => exact ⟨alerts, rfl⟩
  | error cause => exact absurd ⟨cause, hresolve⟩ hknown

theorem duration_pos_of_surfaced (htable : Standard.table wording window = .ok set.table)
    {pair : Event × Category} {alert : Alert} (h : set.surfaced context pair = some alert) :
    0 < alert.duration := by
  obtain ⟨built, houtcome, -, rfl⟩ := surfaced_eq_some_iff.mp h
  obtain ⟨_, hslot, hbuild⟩ := outcome_eq_some_iff.mp houtcome
  obtain ⟨plan, hplan, rfl⟩ := (Standard.slot?_table htable).mp hslot
  have hbuilt : 0 < built.duration :=
    SlotPlan.duration_pos_of_build (Standard.isVisible_of_mem_slots hplan) hbuild
  exact hbuilt

end Standard

end EventSet

/-- **Only the progress of the calibration can be missing.** Over the standard table of any catalog and
window, a resolution fails exactly when the incomplete calibration is active, permanent alerts are asked
for and the progress is not known, and it fails for that reason. In every other case it gives alerts,
and each of them is shown for at least a cycle. -/
theorem standard_resolution_fails_only_without_progress {catalog : Catalog} {window : Float}
    {table : Table} (htable : Table.standardWithCatalog catalog window = .ok table)
    (commands : List Command) (categories : List Category) (context : Context) :
    ((∃ cause, ((run table commands).resolve categories context).value = .error cause) ↔
        .calibrationIncomplete ∈ (run table commands).active ∧ .permanent ∈ categories ∧
          context.live.calibrationPercent = none) ∧
      (∀ cause, ((run table commands).resolve categories context).value = .error cause →
        cause = .missingLiveState .calibrationIncomplete .permanent "calibration_percent") ∧
      (¬ (.calibrationIncomplete ∈ (run table commands).active ∧ .permanent ∈ categories ∧
          context.live.calibrationPercent = none) →
        ∃ alerts, ((run table commands).resolve categories context).value = .ok alerts) ∧
      ∀ alerts, ((run table commands).resolve categories context).value = .ok alerts →
        ∀ alert ∈ alerts, 0 < alert.duration := by
  have hmade : Standard.table (.ofTexts catalog.textOrEmpty) window = .ok (run table commands).table := by
    rw [table_run]
    exact (Table.standardWithCatalog_eq_ok_iff.mp htable).2
  have hfails := EventSet.exists_error_standard_iff hmade categories context
  refine ⟨hfails, fun cause hcause => ?_, fun hnot => ?_, fun alerts halerts alert hmem => ?_⟩
  · obtain ⟨_, pair, _, _, hfailure, _⟩ := EventSet.resolve_eq_error_iff.mp hcause
    exact ((EventSet.failure_standard_iff hmade).mp hfailure).2.2
  · cases hresolve : ((run table commands).resolve categories context).value with
    | ok alerts => exact ⟨alerts, rfl⟩
    | error cause => exact absurd (hfails.mp ⟨cause, hresolve⟩) hnot
  · rw [(EventSet.resolve_eq_ok_iff.mp halerts).2] at hmem
    obtain ⟨pair, _, hsurfaced⟩ := List.mem_filterMap.mp hmem
    exact EventSet.duration_pos_of_surfaced hmade hsurfaced

/-- A calibration that is not complete in two cycles, and something hot in both. -/
def calibratingWhileHot : List Command :=
  [.add .overheat true, .add .calibrationIncomplete false, .reset, .add .calibrationIncomplete false]

/-- Driving with a joystick that has too few axes, at no speed in particular. -/
def unsettled (percent : Option UInt8) : Context :=
  ⟨⟨"honda", 0.0 / 0.0, 1.0 / 0.0⟩, ⟨percent, [0.5], none, false⟩, true⟩

theorem standard_resolution_of_calibratingWhileHot :
    ∃ table, Table.standardWithCatalog (.embedded .ru) (-1.0) = .ok table ∧
      ((run table calibratingWhileHot).resolve [.noEntry, .permanent] (unsettled none)).value =
        .error (.missingLiveState .calibrationIncomplete .permanent "calibration_percent") ∧
      (∃ alerts, ((run table calibratingWhileHot).resolve [.noEntry, .softDisable]
        (unsettled none)).value = .ok alerts ∧ ∀ alert ∈ alerts, 0 < alert.duration) ∧
      ∃ alerts, ((run table calibratingWhileHot).resolve [.noEntry, .permanent]
        (unsettled (some 42))).value = .ok alerts ∧ ∀ alert ∈ alerts, 0 < alert.duration := by
  obtain ⟨table, htable⟩ := Table.exists_standard_embedded .ru (-1.0)
  have hactive : .calibrationIncomplete ∈ (run table calibratingWhileHot).active := by
    rw [active_run]
    decide
  have hresult := standard_resolution_fails_only_without_progress htable calibratingWhileHot
  refine ⟨table, htable, ?_, ?_, ?_⟩
  · obtain ⟨hfails, hcause, -, -⟩ := hresult [.noEntry, .permanent] (unsettled none)
    obtain ⟨cause, hresolve⟩ := hfails.mpr ⟨hactive, by decide, rfl⟩
    rw [hresolve, hcause cause hresolve]
  · obtain ⟨-, -, hok, hshown⟩ := hresult [.noEntry, .softDisable] (unsettled none)
    obtain ⟨alerts, hresolve⟩ := hok fun h => absurd h.2.1 (by decide)
    exact ⟨alerts, hresolve, hshown alerts hresolve⟩
  · obtain ⟨-, -, hok, hshown⟩ := hresult [.noEntry, .permanent] (unsettled (some 42))
    obtain ⟨alerts, hresolve⟩ := hok fun h => nomatch h.2.2
    exact ⟨alerts, hresolve, hshown alerts hresolve⟩

end DriverAlerts
