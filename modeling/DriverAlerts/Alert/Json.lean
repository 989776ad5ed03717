import DriverAlerts.Alert.Basic
import DriverAlerts.Json.Decode
/-!
# Alerts as JSON

An alert is written as a record of its fields, words by their names and the category as null where
there is none. Floats that are not finite have no number and are written as null, which is not read
back.
-/

namespace DriverAlerts.Alert

def fields : List String :=
  ["text1", "text2", "status", "size", "priority", "visual", "audible", "duration_cycles",
   "repeat_rate", "activation_delay_secs", "alert_type", "resolved_category"]

/-- A count of cycles. -/
def cycles : Json.Decoder Cycles := fun json =>
  UInt32.ofNat <$> Json.natural Cycles.limit json

def decode : Json.Decoder Alert := fun json => do
  let entries ← Json.entries fields json
  return {
    text1 := ← entries.required "text1" Json.text
    text2 := ← entries.required "text2" Json.text
    status := ← entries.required "status" (Json.word Status)
    size := ← entries.required "size" (Json.word Size)
    priority := ← entries.required "priority" (Json.word Priority)
    visual := ← entries.required "visual" (Json.word VisualCue)
    audible := ← entries.required "audible" (Json.word AudibleCue)
    duration := ← entries.required "duration_cycles" cycles
    repeatRate := ← entries.required "repeat_rate" Json.double
    activationDelay := ← entries.required "activation_delay_secs" Json.double
    tag := ← entries.required "alert_type" Json.text
    category := ← entries.optional "resolved_category" (Json.word Category) }

def toJson (alert : Alert) : Json :=
  .record [
    ("text1", .ofString alert.text1),
    ("text2", .ofString alert.text2),
    ("status", .ofString alert.status.name),
    ("size", .ofString alert.size.name),
    ("priority", .ofString alert.priority.name),
    ("visual", .ofString alert.visual.name),
    ("audible", .ofString alert.audible.name),
    ("duration_cycles", .ofNat alert.duration.toNat),
    ("repeat_rate", .ofFloat alert.repeatRate),
    ("activation_delay_secs", .ofFloat alert.activationDelay),
    ("alert_type", .ofString alert.tag),
    ("resolved_category", match alert.category with
      | some category => .ofString category.name
      | none => .null)]

end DriverAlerts.Alert
