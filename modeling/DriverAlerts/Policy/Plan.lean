import DriverAlerts.Alert.Presets
import DriverAlerts.Policy.Table
import DriverAlerts.Text.Speed
/-!
# Planned slots

The standard table is written down without any wording. A plan of a slot names the keys of the texts
it needs, and becomes a slot once the texts are known. So which categories an event has, how its alerts
look and how long they last can be read off the plan, whatever the language.
-/

namespace DriverAlerts

/-- The texts that the slots of a table share. -/
structure Wording where
  presets : Presets
  units : SpeedUnits
  text : String → String

namespace Wording

def ofTexts (text : String → String) : Wording :=
  ⟨.ofTexts text, .ofTexts text, text⟩

/-- The text of a key with values in place of its placeholders. -/
def render (wording : Wording) (key : String) (values : List (String × String)) : String :=
  (Template.mk (wording.text key)).render values

end Wording

/-- A line of an alert: nothing, or the text of a key. -/
inductive Line where
  | empty
  | text (key : String)
  deriving DecidableEq, Repr

namespace Line

def keys : Line → List String
  | empty => []
  | text key => [key]

def read (wording : Wording) : Line → String
  | empty => ""
  | text key => wording.text key

end Line

/-- A plan of an alert that depends on nothing but the wording. -/
inductive Prototype where
  | plain (text1 text2 : Line) (style : Style) (seconds : Float)
  | noEntry (text2 : String) (visual : VisualCue)
  | immediateDisable (text2 : String)
  | engagement (audible : AudibleCue)
  | normalPermanent (text1 : String) (text2 : Line)
  | startup (text1 : String)
  | startupWith (text1 text2 : String) (status : Status)
  | withPriority (base : Prototype) (priority : Priority)
  | withDuration (base : Prototype) (seconds : Float)
  | withRepeatRate (base : Prototype) (rate : Float)
  | withActivationDelay (base : Prototype) (seconds : Float)
  deriving Repr

namespace Prototype

/-- The keys of the texts that are needed, in the order in which they are looked up. -/
def keys : Prototype → List String
  | plain text1 text2 _ _ => text1.keys ++ text2.keys
  | noEntry text2 _ => [text2]
  | immediateDisable text2 => [text2]
  | engagement _ => []
  | normalPermanent text1 text2 => text1 :: text2.keys
  | startup text1 => [text1]
  | startupWith text1 text2 _ => [text1, text2]
  | withPriority base _ => base.keys
  | withDuration base _ => base.keys
  | withRepeatRate base _ => base.keys
  | withActivationDelay base _ => base.keys

def alert (wording : Wording) : Prototype → Alert
  | plain text1 text2 style seconds =>
    .new (text1.read wording) (text2.read wording) style seconds
  | noEntry text2 visual => wording.presets.noEntryWithVisual (wording.text text2) visual
  | immediateDisable text2 => wording.presets.immediateDisable (wording.text text2)
  | engagement audible => Presets.engagement audible
  | normalPermanent text1 text2 =>
    Presets.normalPermanent (wording.text text1) (text2.read wording)
  | startup text1 => wording.presets.startup (wording.text text1)
  | startupWith text1 text2 status =>
    Presets.startupWith (wording.text text1) (wording.text text2) status
  | withPriority base priority => (base.alert wording).withPriority priority
  | withDuration base seconds => (base.alert wording).withDuration seconds
  | withRepeatRate base rate => (base.alert wording).withRepeatRate rate
  | withActivationDelay base seconds => (base.alert wording).withActivationDelay seconds

end Prototype

/-- A plan of a slot. The fields are keys of texts. -/
inductive SlotPlan where
  | fixed (prototype : Prototype)
  /-- Control ends after a grace period, or now while the condition is young. -/
  | softDisable (text2 : String)
  /-- The same for a condition that the driver caused. -/
  | userSoftDisable (text2 : String)
  /-- A banner with the software branch. -/
  | startupMaster (title : String)
  /-- Engagement is refused below a speed. -/
  | belowEngageSpeed (reason : String)
  /-- Steering is unavailable below a speed. -/
  | belowSteerSpeed (reason : String)
  /-- The progress of the calibration. -/
  | calibrationIncomplete (title hint : String)
  /-- Engagement is refused, with a hint that depends on the brand. -/
  | wrongCarMode (cruiseOff mainSwitchOff : String)
  /-- The axes of a debug joystick. -/
  | joystick (title axes : String)
  deriving Repr

namespace SlotPlan

/-- The keys of the texts that are needed, in the order in which they are looked up. -/
def keys : SlotPlan → List String
  | fixed prototype => prototype.keys
  | softDisable text2 => [text2]
  | userSoftDisable text2 => [text2]
  | startupMaster title => [title]
  | belowEngageSpeed reason => [reason]
  | belowSteerSpeed reason => [reason]
  | calibrationIncomplete title hint => [title, hint]
  | wrongCarMode cruiseOff mainSwitchOff => [cruiseOff, mainSwitchOff]
  | joystick title axes => [title, axes]

/-- An axis of the joystick in whole percent. -/
def axisPercent (axis : Float) : String :=
  toString (Number.nearestInt64 (axis * 100.0))

/-- The two axes that are shown; both rest unless there are at least two. -/
def axes : List Float → Float × Float
  | gas :: steer :: _ => (gas, steer)
  | _ => (0.0, 0.0)

/-- The slot of a plan; a soft disable escalates within the window. -/
def slot (wording : Wording) (window : Float) : SlotPlan → Slot
  | fixed prototype => .fixed (prototype.alert wording)
  | softDisable text2 => .dynamic fun _ age =>
    .ok (if Cycles.escalates age window then
        wording.presets.immediateDisable (wording.text text2)
      else wording.presets.softDisable (wording.text text2))
  | userSoftDisable text2 => .dynamic fun _ age =>
    .ok (if Cycles.escalates age window then
        wording.presets.immediateDisable (wording.text text2)
      else wording.presets.userSoftDisable (wording.text text2))
  | startupMaster title => .dynamic fun context _ =>
    let branch := if context.live.replay then "replay" else context.live.branch.getD ""
    .ok (Presets.startupWith (wording.text title) branch .userPrompt)
  | belowEngageSpeed reason => .dynamic fun context _ =>
    let speed := wording.units.display context.car.minEnableSpeed context.metric
    .ok (wording.presets.noEntry (wording.render reason [("speed", speed)]))
  | belowSteerSpeed reason => .dynamic fun context _ =>
    let speed := wording.units.display context.car.minSteerSpeed context.metric
    .ok (.new (wording.render reason [("speed", speed)]) ""
      ⟨.userPrompt, .small, .mid, .steerRequired, .prompt⟩ 0.4)
  | calibrationIncomplete title hint => .dynamic fun context _ =>
    match context.live.calibrationPercent with
    | none => .error ⟨"calibration_percent"⟩
    | some percent =>
      let speed := wording.units.display SpeedUnits.calibrationSpeed context.metric
      .ok (.new (wording.render title [("percent", toString percent.toNat)])
        (wording.render hint [("speed", speed)])
        ⟨.normal, .mid, .lowest, .none, .none⟩ 0.2)
  | wrongCarMode cruiseOff mainSwitchOff => .dynamic fun context _ =>
    let reason := if context.car.name = "honda" then mainSwitchOff else cruiseOff
    .ok (wording.presets.noEntry (wording.text reason))
  | joystick title axesText => .dynamic fun context _ =>
    let (gas, steer) := axes context.live.joystickAxes
    .ok (Presets.normalPermanent (wording.text title)
      (wording.render axesText [("gas", axisPercent gas), ("steer", axisPercent steer)]))

end SlotPlan

/-- A plan of a row: its slots in the order in which they are put in. -/
abbrev RowPlan := List (Category × SlotPlan)

namespace RowPlan

def keys (plan : RowPlan) : List String :=
  plan.flatMap fun (_, slot) => slot.keys

def row (wording : Wording) (window : Float) (plan : RowPlan) : Row :=
  .ofSlots (plan.map fun (category, slot) => (category, slot.slot wording window))

end RowPlan

end DriverAlerts
