import DriverAlerts.Error
import DriverAlerts.Json.Decode
import DriverAlerts.Json.Writer
import DriverAlerts.Text.Locale
/-!
# Configuration

The engine is configured by a language, the window in which a soft disable escalates, and the capacity
of the telemetry queue. Every field has a default. A window has to be finite and positive and a
capacity at least one, which is checked whenever a configuration is read.
-/

namespace DriverAlerts

/-- The configuration of the engine. -/
structure Config where
  /-- The language of alert texts. -/
  locale : Locale := .en
  /-- A soft disable younger than this many seconds is shown as an immediate disable. -/
  escalationWindow : Float := 0.5
  /-- How many snapshots are queued before new ones are dropped. -/
  queueCapacity : UInt64 := 64
  deriving Repr, BEq, Inhabited

namespace Config

/-- Checks the window and then the capacity. -/
def validate (config : Config) : Except ValidationError Unit :=
  if ¬ config.escalationWindow.isFinite ∨ config.escalationWindow ≤ 0 then
    .error (.invalidEscalationWindow config.escalationWindow)
  else if config.queueCapacity = 0 then .error .zeroQueueCapacity
  else .ok ()

def fields : List String :=
  ["locale", "soft_disable_escalation_secs", "telemetry_queue_capacity"]

/-- A whole number of eight bytes. -/
def capacity : Json.Decoder UInt64 := fun json =>
  UInt64.ofNat <$> Json.natural (UInt64.size - 1) json

def decode : Json.Decoder Config := fun json => do
  let entries ← Json.entries fields json
  return {
    locale := ← entries.orElse "locale" .en (Json.word Locale)
    escalationWindow := ← entries.orElse "soft_disable_escalation_secs" 0.5 Json.double
    queueCapacity := ← entries.orElse "telemetry_queue_capacity" 64 capacity }

def toJson (config : Config) : Json :=
  .record [
    ("locale", .ofString config.locale.name),
    ("soft_disable_escalation_secs", .ofFloat config.escalationWindow),
    ("telemetry_queue_capacity", .ofNat config.queueCapacity.toNat)]

def toJsonPretty (config : Config) : String :=
  config.toJson.pretty

/-- Reads and checks a configuration. -/
def ofJson (json : String) : Except ValidationError Config :=
  match Json.decodeText decode json with
  | .error cause => .error (.invalidConfig cause.message)
  | .ok config => do
    config.validate
    return config

/-- Reads and checks a configuration file, given its bytes if there is such a file. -/
def ofFile (bytes? : Option ByteArray) : Except ValidationError Config :=
  match bytes? with
  | none => .error (.invalidConfig "the file cannot be read")
  | some bytes =>
    match String.fromUTF8? bytes with
    | none => .error (.invalidConfig "the file is not text")
    | some json => ofJson json

end Config

end DriverAlerts
