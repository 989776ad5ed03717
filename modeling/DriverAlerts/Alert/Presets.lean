import DriverAlerts.Alert.Basic
import DriverAlerts.Text.Catalog
/-!
# Alert presets

Most alerts have one of a few shapes. A preset fixes the style and the duration of a shape and, where
it has one, its localized title.
-/

namespace DriverAlerts

/-- The titles that presets share. -/
structure Presets where
  noEntryTitle : String
  takeControl : String
  userSoftDisableTitle : String
  startupHint : String
  deriving DecidableEq, Repr

namespace Presets

def keys : List String :=
  ["preset.no_entry_title", "preset.take_control", "preset.user_soft_disable_title",
   "preset.startup_hint"]

def ofTexts (text : String → String) : Presets where
  noEntryTitle := text "preset.no_entry_title"
  takeControl := text "preset.take_control"
  userSoftDisableTitle := text "preset.user_soft_disable_title"
  startupHint := text "preset.startup_hint"

def ofCatalog (catalog : Catalog) : Except ValidationError Presets := do
  catalog.require keys
  return ofTexts catalog.textOrEmpty

/-- Engagement is refused, with a cue on the display. -/
def noEntryWithVisual (presets : Presets) (text2 : String) (visual : VisualCue) : Alert :=
  .new presets.noEntryTitle text2 ⟨.normal, .mid, .low, visual, .refuse⟩ 3.0

/-- Engagement is refused. -/
def noEntry (presets : Presets) (text2 : String) : Alert :=
  presets.noEntryWithVisual text2 .none

/-- Control ends after a grace period. -/
def softDisable (presets : Presets) (text2 : String) : Alert :=
  .new presets.takeControl text2 ⟨.userPrompt, .full, .mid, .steerRequired, .warningSoft⟩ 2.0

/-- Control ends after a grace period, for a condition that the driver caused. -/
def userSoftDisable (presets : Presets) (text2 : String) : Alert :=
  { presets.softDisable text2 with text1 := presets.userSoftDisableTitle }

/-- Control ends now. -/
def immediateDisable (presets : Presets) (text2 : String) : Alert :=
  .new presets.takeControl text2 ⟨.critical, .full, .highest, .steerRequired, .warningImmediate⟩ 4.0

/-- A chime without text. -/
def engagement (audible : AudibleCue) : Alert :=
  .new "" "" ⟨.normal, .none, .mid, .none, audible⟩ 0.2

/-- A quiet banner, small when it has no second line. -/
def normalPermanent (text1 text2 : String) : Alert :=
  .new text1 text2 ⟨.normal, if text2.isEmpty then .small else .mid, .lower, .none, .none⟩ 0.2

/-- A banner at startup. -/
def startupWith (text1 text2 : String) (status : Status) : Alert :=
  .new text1 text2 ⟨status, .mid, .lower, .none, .none⟩ 10.0

/-- A banner at startup with the standard hint. -/
def startup (presets : Presets) (text1 : String) : Alert :=
  startupWith text1 presets.startupHint .normal

end Presets

end DriverAlerts
