import DriverAlerts.Text.Catalog
/-!
# Speeds in alert texts

Speeds are kept in metres per second. An alert shows one as a whole number of kilometres or miles per
hour with the unit in the language of the catalog. The product is computed in doubles, its exact value
is rounded to the nearest whole number, a half away from zero, and kept within sixty-four bits.
-/

namespace DriverAlerts

/-- The names of the units. -/
structure SpeedUnits where
  kph : String
  mph : String
  deriving DecidableEq, Repr

namespace SpeedUnits

/-- Kilometres per hour in one metre per second. -/
def kphFactor : Float := 3.6

/-- Miles per hour in one metre per second. -/
def mphFactor : Float := 2.236936

/-- The speed from which calibration makes progress: fifteen miles per hour. -/
def calibrationSpeed : Float := 15.0 / mphFactor

def keys : List String := ["unit.kph", "unit.mph"]

def ofTexts (text : String → String) : SpeedUnits :=
  ⟨text "unit.kph", text "unit.mph"⟩

def ofCatalog (catalog : Catalog) : Except ValidationError SpeedUnits := do
  catalog.require keys
  return ofTexts catalog.textOrEmpty

/-- A speed in metric or imperial units. -/
def display (units : SpeedUnits) (speed : Float) (metric : Bool) : String :=
  if metric then toString (Number.nearestInt64 (speed * kphFactor)) ++ " " ++ units.kph
  else toString (Number.nearestInt64 (speed * mphFactor)) ++ " " ++ units.mph

end SpeedUnits

end DriverAlerts
