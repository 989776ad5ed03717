import DriverAlerts.Policy.Plan
/-!
# What wording and context leave alone

A planned slot takes texts from the wording and values from the context, and both end up in the two
lines of its alert. All else that an alert says is settled by the plan, the window and the age of the
event. The one exception is the size of a banner, which is small when its second line is empty, and so
depends on the wording. It does not depend on the context, because a text that is not empty stays so
whatever is put in for its placeholders.
-/

namespace DriverAlerts

/-! ### Alerts that differ in their wording -/

/-- The alerts agree in all but their two lines and their size. -/
structure Alert.ActsLike (alert other : Alert) : Prop where
  tag : alert.tag = other.tag
  category : alert.category = other.category
  status : alert.status = other.status
  priority : alert.priority = other.priority
  visual : alert.visual = other.visual
  audible : alert.audible = other.audible
  duration : alert.duration = other.duration
  repeatRate : alert.repeatRate = other.repeatRate
  activationDelay : alert.activationDelay = other.activationDelay

namespace Alert

theorem actsLike_new (text1 text2 text1' text2' : String) (style : Style) (size : Size)
    (seconds : Float) :
    (new text1 text2 style seconds).ActsLike (new text1' text2' { style with size } seconds) := by
  constructor <;> rfl

theorem ActsLike.resolved {alert other : Alert} (h : alert.ActsLike other) (event : Event)
    (category : Category) : (alert.resolved event category).ActsLike (other.resolved event category) :=
  { h with tag := rfl, category := rfl }

end Alert

open Alert (actsLike_new)

/-! ### Texts with values put in -/

namespace Template

theorem split_some_ne_nil (held text : List Char) : split (some held) text ≠ [] := by
  induction text generalizing held with
  | nil => exact List.cons_ne_nil _ _
  | cons c text ih =>
      rw [split]
      split
      · exact ih (c :: held)
      · split
        · exact List.cons_ne_nil _ _
        · split <;> exact List.cons_ne_nil _ _

theorem split_none_eq_nil_iff (text : List Char) : split none text = [] ↔ text = [] := by
  cases text with
  | nil => exact iff_of_true rfl rfl
  | cons c text =>
      refine iff_of_false ?_ (List.cons_ne_nil c text)
      rw [split]
      split
      · exact split_some_ne_nil [] text
      · exact List.cons_ne_nil _ _

theorem Piece.render_ne_nil {values : List (String × String)} (hvalues : ∀ entry ∈ values, entry.2 ≠ "")
    (piece : Piece) : piece.render values ≠ [] := by
  cases piece with
  | char c => exact List.cons_ne_nil c []
  | placeholder name =>
      rw [render]
      cases hfound : values.lookup (String.ofList name) with
      | none => exact List.cons_ne_nil _ _
      | some value =>
          obtain ⟨before, after, rfl, -⟩ := List.lookup_eq_some_iff.mp hfound
          have hvalue := hvalues (String.ofList name, value)
            (List.mem_append_right before List.mem_cons_self)
          rwa [ne_eq, String.toList_eq_nil_iff]

/-- Values that are not empty leave nothing empty that was not. -/
theorem render_eq_empty_iff {values : List (String × String)}
    (hvalues : ∀ entry ∈ values, entry.2 ≠ "") (template : Template) :
    template.render values = "" ↔ template.raw = "" := by
  rw [render, String.ofList_eq_empty_iff, ← String.toList_eq_nil_iff (b := template.raw),
    ← split_none_eq_nil_iff template.raw.toList, pieces]
  cases split none template.raw.toList with
  | nil => exact iff_of_true rfl rfl
  | cons piece pieces =>
      refine iff_of_false (fun h => ?_) (List.cons_ne_nil piece pieces)
      rw [List.flatMap_cons, List.append_eq_nil_iff] at h
      exact piece.render_ne_nil hvalues h.1

end Template

/-- The wordings have the same empty texts. -/
def Wording.EmptyAlike (wording other : Wording) : Prop :=
  ∀ key, wording.text key = "" ↔ other.text key = ""

/-! ### Plans -/

section Plans

variable {wording wording' : Wording}

theorem Line.read_eq_empty_iff (hempty : wording.EmptyAlike wording') (line : Line) :
    line.read wording = "" ↔ line.read wording' = "" := by
  cases line with
  | empty => exact Iff.rfl
  | text key => exact hempty key

@[simp] theorem Alert.size_new (text1 text2 : String) (style : Style) (seconds : Float) :
    (new text1 text2 style seconds).size = style.size := rfl

theorem Presets.size_normalPermanent (text1 text2 : String) :
    (normalPermanent text1 text2).size = if text2 = "" then .small else .mid := by
  simp only [normalPermanent, Alert.size_new, String.isEmpty_iff]

namespace Prototype

theorem actsLike_alert (wording wording' : Wording) (prototype : Prototype) :
    (prototype.alert wording).ActsLike (prototype.alert wording') := by
  induction prototype with
  | withPriority base priority ih => exact { ih with priority := rfl }
  | withDuration base seconds ih => exact { ih with duration := rfl }
  | withRepeatRate base rate ih => exact { ih with repeatRate := rfl }
  | withActivationDelay base seconds ih => exact { ih with activationDelay := rfl }
  | _ => exact actsLike_new _ _ _ _ _ _ _

theorem size_alert (hempty : wording.EmptyAlike wording') (prototype : Prototype) :
    (prototype.alert wording).size = (prototype.alert wording').size := by
  induction prototype with
  | normalPermanent text1 text2 =>
      simp only [alert, Presets.size_normalPermanent, text2.read_eq_empty_iff hempty]
  | withPriority base priority ih => exact ih
  | withDuration base seconds ih => exact ih
  | withRepeatRate base rate ih => exact ih
  | withActivationDelay base seconds ih => exact ih
  | _ => rfl

end Prototype

namespace SlotPlan

theorem axisPercent_ne_empty (axis : Float) : axisPercent axis ≠ "" := by
  rw [axisPercent]
  cases Number.nearestInt64 (axis * 100.0) with
  | ofNat n => exact Nat.repr_ne_empty
  | negSucc n =>
      rw [Int.toString_eq_repr, Int.repr]
      simp

variable {plan : SlotPlan} {window : Float} {context context' : Context} {age : Cycles}
  {alert alert' : Alert}

/-- What is said of the progress of the calibration is said in its two lines. -/
theorem exists_lines_of_build {title hint : String}
    (h : ((calibrationIncomplete title hint).slot wording window).build context age = .ok alert) :
    ∃ text1 text2, alert = .new text1 text2 ⟨.normal, .mid, .lowest, .none, .none⟩ 0.2 := by
  rw [slot, Slot.build] at h
  cases hpercent : context.live.calibrationPercent with
  | none =>
      rw [hpercent] at h
      exact nomatch h
  | some percent =>
      rw [hpercent] at h
      exact ⟨_, _, (Except.ok.inj h).symm⟩

theorem actsLike_of_build (h : (plan.slot wording window).build context age = .ok alert)
    (h' : (plan.slot wording' window).build context' age = .ok alert') : alert.ActsLike alert' := by
  cases plan with
  | fixed prototype =>
      rw [← Except.ok.inj h, ← Except.ok.inj h']
      exact prototype.actsLike_alert wording wording'
  | softDisable text2 | userSoftDisable text2 =>
      rw [← Except.ok.inj h, ← Except.ok.inj h']
      split
      · exact actsLike_new _ _ _ _ _ _ _
      · constructor <;> rfl
  | calibrationIncomplete title hint =>
      obtain ⟨_, _, rfl⟩ := exists_lines_of_build h
      obtain ⟨_, _, rfl⟩ := exists_lines_of_build h'
      exact actsLike_new _ _ _ _ _ _ _
  | _ =>
      rw [← Except.ok.inj h, ← Except.ok.inj h']
      exact actsLike_new _ _ _ _ _ _ _

theorem size_of_build (hempty : wording.EmptyAlike wording')
    (h : (plan.slot wording window).build context age = .ok alert)
    (h' : (plan.slot wording' window).build context' age = .ok alert') : alert.size = alert'.size := by
  cases plan with
  | fixed prototype =>
      rw [← Except.ok.inj h, ← Except.ok.inj h']
      exact prototype.size_alert hempty
  | softDisable text2 | userSoftDisable text2 =>
      rw [← Except.ok.inj h, ← Except.ok.inj h']
      split <;> rfl
  | calibrationIncomplete title hint =>
      obtain ⟨_, _, rfl⟩ := exists_lines_of_build h
      obtain ⟨_, _, rfl⟩ := exists_lines_of_build h'
      rfl
  | joystick title axesText =>
      have hvalues : ∀ gas steer, ∀ entry ∈ [("gas", axisPercent gas), ("steer", axisPercent steer)],
          entry.2 ≠ "" := by
        intro gas steer
        simp only [List.forall_mem_cons]
        exact ⟨axisPercent_ne_empty gas, axisPercent_ne_empty steer, List.forall_mem_nil _⟩
      rw [← Except.ok.inj h, ← Except.ok.inj h', Presets.size_normalPermanent,
        Presets.size_normalPermanent]
      simp only [Wording.render, Template.render_eq_empty_iff (hvalues _ _), hempty axesText]
  | belowEngageSpeed _ | wrongCarMode _ _ =>
      rw [← Except.ok.inj h, ← Except.ok.inj h', Presets.noEntry, Presets.noEntry,
        Presets.noEntryWithVisual, Presets.noEntryWithVisual, Alert.size_new, Alert.size_new]
  | startupMaster _ =>
      rw [← Except.ok.inj h, ← Except.ok.inj h', Presets.startupWith, Presets.startupWith,
        Alert.size_new, Alert.size_new]
  | belowSteerSpeed _ =>
      rw [← Except.ok.inj h, ← Except.ok.inj h', Alert.size_new, Alert.size_new]

end SlotPlan

end Plans

end DriverAlerts
