import DriverAlerts.Alert.Basic
import DriverAlerts.Context
import DriverAlerts.Error
/-!
# Slots and rows

A row of the policy table says which alert an event raises in each category. A slot of a row holds
either a finished alert or a way to build one from the context and the number of consecutive cycles
for which the event has been active. A row without slots is silent: its event is known and never shown.
-/

namespace DriverAlerts

/-- What a row holds for a category. -/
inductive Slot where
  | fixed (alert : Alert)
  | dynamic (make : Context → Cycles → Except MissingField Alert)

namespace Slot

/-- The alert of a slot. -/
def build : Slot → Context → Cycles → Except MissingField Alert
  | fixed alert, _, _ => .ok alert
  | dynamic make, context, age => make context age

def isFixed : Slot → Bool
  | fixed _ => true
  | dynamic _ => false

end Slot

/-- The slots of one event. -/
structure Row where
  slot? : Category → Option Slot

namespace Row

def silent : Row :=
  ⟨fun _ => none⟩

/-- Puts a slot into a row, in place of the one that the category had. -/
def put (row : Row) (category : Category) (slot : Slot) : Row :=
  ⟨fun c => if c = category then some slot else row.slot? c⟩

/-- The row that slots make when they are put in one after the other. -/
def ofSlots (slots : List (Category × Slot)) : Row :=
  slots.foldl (fun row (category, slot) => row.put category slot) silent

def has (row : Row) (category : Category) : Bool :=
  (row.slot? category).isSome

/-- The categories of a row, in declaration order. -/
def categories (row : Row) : List Category :=
  Category.all.filter row.has

def isSilent (row : Row) : Bool :=
  row.categories.isEmpty

end Row

end DriverAlerts
