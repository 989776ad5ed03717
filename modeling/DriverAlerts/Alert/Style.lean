import DriverAlerts.Named
/-!
# The style of an alert

Five closed vocabularies describe how an alert is presented, apart from its wording and its timing.
-/

namespace DriverAlerts

/-- How urgent an alert looks. -/
inductive Status where
  | normal | userPrompt | critical
  deriving DecidableEq, Repr, Inhabited

def Status.name : Status → String
  | .normal => "normal"
  | .userPrompt => "userPrompt"
  | .critical => "critical"

def Status.all : List Status :=
  [.normal, .userPrompt, .critical]

instance : Named Status := ⟨Status.all, Status.name⟩

/-- How much of the screen an alert takes. -/
inductive Size where
  | none | small | mid | full
  deriving DecidableEq, Repr, Inhabited

def Size.name : Size → String
  | .none => "none"
  | .small => "small"
  | .mid => "mid"
  | .full => "full"

def Size.all : List Size :=
  [.none, .small, .mid, .full]

instance : Named Size := ⟨Size.all, Size.name⟩

/-- The weight of an alert in arbitration; later words outweigh earlier ones. -/
inductive Priority where
  | lowest | lower | low | mid | high | highest
  deriving DecidableEq, Repr, Inhabited

def Priority.name : Priority → String
  | .lowest => "lowest"
  | .lower => "lower"
  | .low => "low"
  | .mid => "mid"
  | .high => "high"
  | .highest => "highest"

def Priority.all : List Priority :=
  [.lowest, .lower, .low, .mid, .high, .highest]

instance : Named Priority := ⟨Priority.all, Priority.name⟩

/-- What an alert asks the head-up display to show. -/
inductive VisualCue where
  | none | fcw | steerRequired | brakePressed | wrongGear | seatbeltUnbuckled | speedTooHigh | ldw
  deriving DecidableEq, Repr, Inhabited

def VisualCue.name : VisualCue → String
  | .none => "none"
  | .fcw => "fcw"
  | .steerRequired => "steerRequired"
  | .brakePressed => "brakePressed"
  | .wrongGear => "wrongGear"
  | .seatbeltUnbuckled => "seatbeltUnbuckled"
  | .speedTooHigh => "speedTooHigh"
  | .ldw => "ldw"

def VisualCue.all : List VisualCue :=
  [.none, .fcw, .steerRequired, .brakePressed, .wrongGear, .seatbeltUnbuckled, .speedTooHigh, .ldw]

instance : Named VisualCue := ⟨VisualCue.all, VisualCue.name⟩

/-- The sound an alert asks for. -/
inductive AudibleCue where
  | none | engage | disengage | refuse | warningSoft | warningImmediate | prompt | promptRepeat | promptDistracted
  deriving DecidableEq, Repr, Inhabited

def AudibleCue.name : AudibleCue → String
  | .none => "none"
  | .engage => "engage"
  | .disengage => "disengage"
  | .refuse => "refuse"
  | .warningSoft => "warningSoft"
  | .warningImmediate => "warningImmediate"
  | .prompt => "prompt"
  | .promptRepeat => "promptRepeat"
  | .promptDistracted => "promptDistracted"

def AudibleCue.all : List AudibleCue :=
  [.none, .engage, .disengage, .refuse, .warningSoft,
   .warningImmediate, .prompt, .promptRepeat, .promptDistracted]

instance : Named AudibleCue := ⟨AudibleCue.all, AudibleCue.name⟩

/-- The presentation of an alert. -/
structure Style where
  status : Status
  size : Size
  priority : Priority
  visual : VisualCue
  audible : AudibleCue
  deriving DecidableEq, Repr, Inhabited

namespace Priority

/-- The place of a priority among the six. -/
def weight : Priority → Nat
  | .lowest => 0
  | .lower => 1
  | .low => 2
  | .mid => 3
  | .high => 4
  | .highest => 5

end Priority

end DriverAlerts
