import DriverAlerts.Named
/-!
# Categories

A category says what an event does to engagement: it may enable control, block it, warn the driver or
end it. A row of the policy table associates an event with some of the nine categories, and the order
in which they are declared here is the order of every listing of them.
-/

namespace DriverAlerts

/-- What an event does to engagement. -/
inductive Category where
  /-- A request to engage. -/
  | enable
  /-- Engagement is pending, for instance until a pedal is released. -/
  | preEnable
  /-- The driver overrides while engaged. -/
  | override
  /-- Engagement is not allowed. -/
  | noEntry
  /-- Attention is wanted while engaged. -/
  | warning
  /-- The driver disengages. -/
  | userDisable
  /-- Disengage after a grace period. -/
  | softDisable
  /-- Disengage now. -/
  | immediateDisable
  /-- Shown in every control state. -/
  | permanent
  deriving DecidableEq, Repr, Inhabited

namespace Category

/-- The name of a category in records and alert tags. -/
def name : Category → String
  | .enable => "enable"
  | .preEnable => "preEnable"
  | .override => "override"
  | .noEntry => "noEntry"
  | .warning => "warning"
  | .userDisable => "userDisable"
  | .softDisable => "softDisable"
  | .immediateDisable => "immediateDisable"
  | .permanent => "permanent"

/-- Every category, in declaration order. -/
def all : List Category :=
  [.enable, .preEnable, .override, .noEntry, .warning, .userDisable, .softDisable,
   .immediateDisable, .permanent]

instance : Named Category := ⟨all, name⟩

end Category

end DriverAlerts
