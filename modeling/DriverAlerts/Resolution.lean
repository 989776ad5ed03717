import DriverAlerts.EventSet
/-!
# Resolution

Resolving turns the active events into alerts for the categories asked for. Each active entry meets
each category in turn, the entries outermost, and where the table has a slot there is a request. A
request builds its alert and then keeps it back as long as the event is younger than the activation
delay of that alert, counting the current cycle. The first alert that cannot be built ends the
resolution, for it might be the one that matters.
-/

namespace DriverAlerts

/-- A slot that an active event has for a category that is asked for. -/
structure Request where
  event : Event
  category : Category
  slot : Slot
  /-- For how many consecutive cycles the event has been active, with the current one. -/
  age : Cycles

namespace Request

/-- The alert of the slot. -/
def build (request : Request) (context : Context) : Except FactoryError Alert :=
  match request.slot.build context request.age with
  | .ok alert => .ok alert
  | .error missing =>
    .error (.missingLiveState request.event request.category missing.field)

/-- The event has been active for the activation delay. -/
def covers (request : Request) (alert : Alert) : Bool :=
  Cycles.required alert.activationDelay ≤ request.age

/-- The copy of an alert for this request. -/
def stamp (request : Request) (alert : Alert) : Alert :=
  alert.resolved request.event request.category

end Request

/-- Answers requests one after the other. -/
def answer (context : Context) : List Request → Logged (Except FactoryError (List Alert))
  | [] => pure (.ok [])
  | request :: requests =>
    match request.build context with
    | .error cause => ⟨.error cause, [.failed cause]⟩
    | .ok alert =>
      if request.covers alert then
        let alert := request.stamp alert
        let rest := answer context requests
        ⟨(alert :: ·) <$> rest.value, .resolved alert request.age :: rest.notices⟩
      else answer context requests

namespace EventSet

/-- The age of an event, with the current cycle. -/
def age (set : EventSet) (event : Event) : Cycles :=
  (set.persistence event).next

/-- The requests of one event. -/
def requestsOf (set : EventSet) (categories : List Category) (event : Event) : List Request :=
  categories.filterMap fun category =>
    (set.table.slot? event category).map fun slot => ⟨event, category, slot, set.age event⟩

/-- All requests, the active entries outermost. -/
def requests (set : EventSet) (categories : List Category) : List Request :=
  set.active.flatMap (set.requestsOf categories)

/-- The alerts of the active events for some categories. -/
def resolve (set : EventSet) (categories : List Category) (context : Context) :
    Logged (Except FactoryError (List Alert)) :=
  answer context (set.requests categories)

end EventSet

end DriverAlerts
