import DriverAlerts.Alert.Style
import DriverAlerts.Category
import DriverAlerts.Cycles
import DriverAlerts.Event
/-!
# Alerts

An alert is one notification for the driver: two lines of text, a style and a timing. The policy table
holds prototypes. Resolving an event gives a copy that is stamped with the event and the category it
was resolved for and otherwise equals its prototype.
-/

namespace DriverAlerts

/-- One notification for the driver. -/
structure Alert where
  text1 : String
  text2 : String
  status : Status
  size : Size
  priority : Priority
  visual : VisualCue
  audible : AudibleCue
  /-- How long the alert is shown. -/
  duration : Cycles
  /-- The rate at which the sound repeats. -/
  repeatRate : Float
  /-- How many seconds the condition has to persist before the alert is shown. -/
  activationDelay : Float
  /-- The origin of a resolved alert, empty on a prototype. -/
  tag : String
  /-- The category an alert was resolved for. -/
  category : Option Category
  deriving Repr, Inhabited, BEq

namespace Alert

/-- A prototype that is shown for some seconds and needs no delay. -/
def new (text1 text2 : String) (style : Style) (seconds : Float) : Alert where
  text1
  text2
  status := style.status
  size := style.size
  priority := style.priority
  visual := style.visual
  audible := style.audible
  duration := Cycles.duration seconds
  repeatRate := 0
  activationDelay := 0
  tag := ""
  category := none

def withRepeatRate (alert : Alert) (rate : Float) : Alert :=
  { alert with repeatRate := rate }

def withActivationDelay (alert : Alert) (seconds : Float) : Alert :=
  { alert with activationDelay := seconds }

def withPriority (alert : Alert) (priority : Priority) : Alert :=
  { alert with priority }

def withDuration (alert : Alert) (seconds : Float) : Alert :=
  { alert with duration := Cycles.duration seconds }

def withStatus (alert : Alert) (status : Status) : Alert :=
  { alert with status }

/-- What the tag of an alert says about its origin. -/
def origin (event : Event) (category : Category) : String :=
  event.name ++ "/" ++ category.name

/-- The copy of a prototype for one event and category. -/
def resolved (alert : Alert) (event : Event) (category : Category) : Alert :=
  { alert with tag := origin event category, category := some category }

/-- Beats another alert in arbitration. Alerts of equal priority never do. -/
def outranks (alert other : Alert) : Bool :=
  other.priority.weight < alert.priority.weight

/-- An alert on one line. -/
def describe (alert : Alert) : String :=
  alert.text1 ++ "/" ++ alert.text2 ++ " " ++ Named.title alert.priority ++ " " ++
    Named.title alert.visual ++ " " ++ Named.title alert.audible

end Alert

end DriverAlerts
