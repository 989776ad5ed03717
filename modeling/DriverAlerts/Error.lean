import DriverAlerts.Category
import DriverAlerts.Event
import DriverAlerts.Number.Layout
/-!
# Errors

Building a configuration, a catalog or a table can fail, and so can building an alert, decoding a
record and handing over a snapshot. Nothing fails in a cycle of normal operation. An alert that cannot
be built would hide a condition from the driver, so such an error stops the control loop, and so does
a telemetry channel that has lost its other end.
-/

namespace DriverAlerts

/-- A text that is not the name of what it should name. -/
inductive NameError where
  | event (text : String)
  | category (text : String)
  deriving DecidableEq, Repr

def NameError.message : NameError → String
  | event text => "unknown event name '" ++ text ++ "'"
  | category text => "unknown category '" ++ text ++ "'"

/-- The event of a name. -/
def Event.parse (text : String) : Except NameError Event :=
  match Named.ofName? text with
  | some event => .ok event
  | none => .error (.event text)

/-- The category of a name. -/
def Category.parse (text : String) : Except NameError Category :=
  match Named.ofName? text with
  | some category => .ok category
  | none => .error (.category text)

/-- Why a configuration, a catalog or a table cannot be built. -/
inductive ValidationError where
  | invalidEscalationWindow (seconds : Float)
  | zeroQueueCapacity
  | missingText (locale key : String)
  | malformedCatalog (locale reason : String)
  | duplicateRow (event : Event)
  | invalidConfig (reason : String)
  deriving Repr

def ValidationError.message : ValidationError → String
  | invalidEscalationWindow seconds =>
    "Soft-disable escalation window " ++ Number.display seconds ++
      "s must be finite and greater than zero"
  | zeroQueueCapacity => "Telemetry queue capacity must be greater than zero"
  | missingText locale key =>
    "Text catalog '" ++ locale ++ "' has no entry for key '" ++ key ++ "'"
  | malformedCatalog locale reason =>
    "Text catalog '" ++ locale ++ "' could not be parsed: " ++ reason
  | duplicateRow event => "Policy table already has a row for event '" ++ event.name ++ "'"
  | invalidConfig reason => "Invalid configuration: " ++ reason

/-- A live value that an alert needs and the context does not have. -/
structure MissingField where
  field : String
  deriving DecidableEq, Repr

/-- Why an alert cannot be built. -/
inductive FactoryError where
  | missingLiveState (event : Event) (category : Category) (field : String)
  deriving DecidableEq, Repr

def FactoryError.message : FactoryError → String
  | missingLiveState event category field =>
    "Alert factory for '" ++ event.name ++ "/" ++ category.name ++ "' needs live state field '" ++
      field ++ "'"

/-- Why records or snapshots cannot be used. -/
inductive RecordError where
  | unknownEvent (name : String)
  | serializationFailed (reason : String)
  | deserializationFailed (reason : String)
  | fingerprintMismatch (expected actual : String)
  deriving DecidableEq, Repr

def RecordError.message : RecordError → String
  | unknownEvent name => "Unknown event name in record: '" ++ name ++ "'"
  | serializationFailed reason => "Failed to serialize snapshot: " ++ reason
  | deserializationFailed reason => "Failed to deserialize snapshot: " ++ reason
  | fingerprintMismatch expected actual =>
    "Snapshot was produced with policy table " ++ actual ++ ", expected " ++ expected

/-- Why a snapshot cannot be handed over. -/
inductive TelemetryError where
  | disconnected
  | timeout (milliseconds : Nat)
  deriving DecidableEq, Repr

def TelemetryError.message : TelemetryError → String
  | disconnected => "Telemetry channel disconnected"
  | timeout milliseconds =>
    "Timed out after " ++ toString milliseconds ++ "ms waiting for a snapshot"

/-- Any error of the engine. -/
inductive EngineError where
  | validation (cause : ValidationError)
  | factory (cause : FactoryError)
  | record (cause : RecordError)
  | telemetry (cause : TelemetryError)
  | internal (message : String)
  deriving Repr

namespace EngineError

def message : EngineError → String
  | validation cause => "Validation error: " ++ cause.message
  | factory cause => "Factory error: " ++ cause.message
  | record cause => "Record error: " ++ cause.message
  | telemetry cause => "Telemetry error: " ++ cause.message
  | internal message => "Internal error: " ++ message

def isValidation : EngineError → Bool
  | validation _ => true
  | _ => false

def isFactory : EngineError → Bool
  | factory _ => true
  | _ => false

def isRecord : EngineError → Bool
  | record _ => true
  | _ => false

def isTelemetry : EngineError → Bool
  | telemetry _ => true
  | _ => false

/-- The control loop has to stop and restart. -/
def isFatal : EngineError → Bool
  | factory _ | internal _ | telemetry .disconnected => true
  | _ => false

end EngineError

end DriverAlerts
