import DriverAlerts.Named
/-!
# Languages

The languages in which alerts are worded, each with its short tag.
-/

namespace DriverAlerts

/-- A language of alert texts. -/
inductive Locale where
  /-- English. -/
  | en
  /-- Russian. -/
  | ru
  deriving DecidableEq, Repr, Inhabited

namespace Locale

def name : Locale → String
  | .en => "en"
  | .ru => "ru"

def all : List Locale := [.en, .ru]

instance : Named Locale := ⟨all, name⟩

end Locale

end DriverAlerts
