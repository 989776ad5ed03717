import DriverAlerts.Json.Decode
/-!
# Runtime context

Some alerts depend on values that are only known while driving. The caller puts them together each
cycle: parameters of the car, live values that some service may not have published yet, and the choice
of units. As JSON, the live values that are not there are left out.
-/

namespace DriverAlerts

/-- Parameters of the car. -/
structure Car where
  /-- The brand. -/
  name : String
  /-- The lowest speed at which control may be engaged, in metres per second. -/
  minEnableSpeed : Float
  /-- The lowest speed at which steering is available, in metres per second. -/
  minSteerSpeed : Float
  deriving Repr, BEq

/-- Live values that alerts read. -/
structure LiveState where
  /-- Progress of the calibration. -/
  calibrationPercent : Option UInt8
  /-- Axes of a debug joystick: gas and brake, then steering. -/
  joystickAxes : List Float
  /-- The software branch. -/
  branch : Option String
  /-- Whether a recorded drive is replayed. -/
  replay : Bool
  deriving Repr, BEq

/-- All that an alert may read, apart from the count of cycles. -/
structure Context where
  car : Car
  live : LiveState
  /-- Show metric units. -/
  metric : Bool
  deriving Repr, BEq

namespace Car

def fields : List String := ["car_name", "min_enable_speed", "min_steer_speed"]

def decode : Json.Decoder Car := fun json => do
  let entries ← Json.entries fields json
  return {
    name := ← entries.required "car_name" Json.text
    minEnableSpeed := ← entries.required "min_enable_speed" Json.double
    minSteerSpeed := ← entries.required "min_steer_speed" Json.double }

def toJson (car : Car) : Json :=
  .record [
    ("car_name", .ofString car.name),
    ("min_enable_speed", .ofFloat car.minEnableSpeed),
    ("min_steer_speed", .ofFloat car.minSteerSpeed)]

end Car

namespace LiveState

def fields : List String := ["calibration_percent", "joystick_axes", "branch", "replay"]

/-- A whole number of one byte. -/
def percent : Json.Decoder UInt8 := fun json =>
  UInt8.ofNat <$> Json.natural 255 json

def decode : Json.Decoder LiveState := fun json => do
  let entries ← Json.entries fields json
  return {
    calibrationPercent := ← entries.orElse "calibration_percent" none (Json.nullable percent)
    joystickAxes := ← entries.orElse "joystick_axes" [] (Json.list Json.double)
    branch := ← entries.orElse "branch" none (Json.nullable Json.text)
    replay := ← entries.orElse "replay" false Json.boolean }

def toJson (live : LiveState) : Json :=
  .record (
    (match live.calibrationPercent with
      | some percent => [("calibration_percent", Json.ofNat percent.toNat)]
      | none => []) ++
    (if live.joystickAxes.isEmpty then []
      else [("joystick_axes", .array (live.joystickAxes.map Json.ofFloat))]) ++
    (match live.branch with
      | some branch => [("branch", Json.ofString branch)]
      | none => []) ++
    [("replay", .bool live.replay)])

end LiveState

namespace Context

def fields : List String := ["car", "live", "metric"]

def decode : Json.Decoder Context := fun json => do
  let entries ← Json.entries fields json
  return {
    car := ← entries.required "car" Car.decode
    live := ← entries.required "live" LiveState.decode
    metric := ← entries.required "metric" Json.boolean }

def toJson (context : Context) : Json :=
  .record [
    ("car", context.car.toJson),
    ("live", context.live.toJson),
    ("metric", .bool context.metric)]

end Context

end DriverAlerts
