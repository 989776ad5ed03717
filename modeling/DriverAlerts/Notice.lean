import DriverAlerts.Alert.Basic
import DriverAlerts.Error
import DriverAlerts.Text.Locale
/-!
# Notices

What the engine has to say beyond its results is a second output of its operations: a list of notices
in the order in which they arise, each with a severity and a text for whoever keeps a log. An operation
with notices returns them beside its value, and operations one after the other append theirs.
-/

namespace DriverAlerts

/-- How much a notice matters. -/
inductive Severity where
  | error | warn | info | debug | trace
  deriving DecidableEq, Repr

def Severity.name : Severity → String
  | .error => "error"
  | .warn => "warn"
  | .info => "info"
  | .debug => "debug"
  | .trace => "trace"

inductive Notice where
  /-- A standard table has been built. -/
  | tableBuilt (locale : Locale) (texts events : Nat) (fingerprint : String)
  /-- An event set has a table without rows. -/
  | emptyTable
  /-- An event without a row has been added. -/
  | withoutRow (event : Event)
  /-- A record has been skipped. -/
  | skippedRecord (cause : RecordError)
  /-- An alert has been resolved. -/
  | resolved (alert : Alert) (age : Cycles)
  /-- An alert could not be built. -/
  | failed (cause : FactoryError)
  /-- A snapshot found the telemetry queue full. -/
  | queueFull (cycle dropped : UInt64)
  deriving Repr

namespace Notice

def severity : Notice → Severity
  | tableBuilt .. => .info
  | emptyTable => .warn
  | withoutRow _ => .debug
  | skippedRecord _ => .debug
  | resolved .. => .trace
  | failed _ => .error
  | queueFull .. => .warn

def message : Notice → String
  | tableBuilt locale texts events fingerprint =>
    "policy table built: locale=" ++ locale.name ++ " texts=" ++ toString texts ++ " events=" ++
      toString events ++ " fingerprint=" ++ fingerprint
  | emptyTable =>
    "event set bound to an empty policy table, every event classifies as no categories"
  | withoutRow event =>
    "event " ++ event.name ++ " has no policy row, it classifies as no categories"
  | skippedRecord cause => "skipping record: " ++ cause.message
  | resolved alert age =>
    "resolved " ++ alert.tag ++ " after " ++ toString age.toNat ++ " cycles: " ++ alert.describe
  | failed cause => cause.message
  | queueFull cycle dropped =>
    "telemetry queue full, dropped snapshot for cycle " ++ toString cycle.toNat ++ " (" ++
      toString dropped.toNat ++ " dropped so far)"

end Notice

/-- A value with the notices that arose on the way to it. -/
structure Logged (α : Type) where
  value : α
  notices : List Notice
  deriving Repr

namespace Logged

variable {α β : Type}

/-- A value with no more to say. -/
def quiet (value : α) : Logged α :=
  ⟨value, []⟩

/-- Goes on with the value. -/
def andThen (first : Logged α) (next : α → Logged β) : Logged β :=
  ⟨(next first.value).value, first.notices ++ (next first.value).notices⟩

instance : Monad Logged where
  pure := quiet
  bind := andThen

@[simp] theorem value_pure (a : α) : (pure a : Logged α).value = a := rfl

@[simp] theorem notices_pure (a : α) : (pure a : Logged α).notices = [] := rfl

@[simp] theorem value_bind (first : Logged α) (next : α → Logged β) :
    (first >>= next).value = (next first.value).value := rfl

@[simp] theorem notices_bind (first : Logged α) (next : α → Logged β) :
    (first >>= next).notices = first.notices ++ (next first.value).notices := rfl

end Logged

end DriverAlerts
