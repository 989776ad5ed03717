import DriverAlerts.Resolution
import Mathlib.Data.List.Basic
import Mathlib.Data.List.Forall2
import Mathlib.Data.List.ProdSigma
/-!
# What a resolution is, without its loops

A resolution is determined by the pairs of an active entry and a requested category that have a slot,
in the order in which the loops meet them. Each pair either fails or surfaces at most one alert, and
neither depends on the other pairs. The first failure is the result, wherever it stands and whether or
not its alert would have been kept back. Without a failure the result is what the pairs surface.
-/

namespace DriverAlerts

/-! ### Answering requests -/

namespace Request

/-- The cause with which a request ends a resolution. -/
def failure (context : Context) (request : Request) : Option FactoryError :=
  match request.build context with
  | .ok _ => none
  | .error cause => some cause

/-- The alert that a request adds to a resolution. -/
def surfaced (context : Context) (request : Request) : Option Alert :=
  match request.build context with
  | .ok alert => if request.covers alert then some (request.stamp alert) else none
  | .error _ => none

end Request

theorem value_answer (context : Context) (requests : List Request) :
    (answer context requests).value =
      match (requests.filterMap (Request.failure context)).head? with
      | some cause => .error cause
      | none => .ok (requests.filterMap (Request.surfaced context)) := by
  induction requests with
  | nil => rfl
  | cons request requests ih =>
      rw [answer, List.filterMap_cons, List.filterMap_cons]
      cases hbuild : request.build context with
      | error cause =>
          have hfailure : request.failure context = some cause := by rw [Request.failure, hbuild]
          rw [hfailure]
          rfl
      | ok alert =>
          have hfailure : request.failure context = none := by rw [Request.failure, hbuild]
          have hsurfaced : request.surfaced context =
              if request.covers alert then some (request.stamp alert) else none := by
            rw [Request.surfaced, hbuild]
          rw [hfailure, hsurfaced]
          dsimp only
          cases request.covers alert with
          | false => exact ih
          | true =>
              simp only [if_true, ih]
              cases (requests.filterMap (Request.failure context)).head? <;> rfl

namespace EventSet

/-- The pairs of an active entry and a requested category that have a slot, entries outermost. -/
def pairs (set : EventSet) (categories : List Category) : List (Event × Category) :=
  (set.active ×ˢ categories).filter fun pair => set.table.hasCategory pair.1 pair.2

/-- What the slot of a pair gives: its alert, or what it makes of the context and of the cycles in a
row of its event, the current one included. -/
def outcome (set : EventSet) (context : Context) (pair : Event × Category) :
    Option (Except MissingField Alert) :=
  match set.table.slot? pair.1 pair.2 with
  | some (.fixed alert) => some (.ok alert)
  | some (.dynamic make) =>
    some (make context (Cycles.saturate ((set.persistence pair.1).toNat + 1)))
  | none => none

/-- The error that a pair causes, if its slot fails. -/
def failure (set : EventSet) (context : Context) (pair : Event × Category) : Option FactoryError :=
  match set.outcome context pair with
  | some (.error missing) => some (.missingLiveState pair.1 pair.2 missing.field)
  | _ => none

/-- The alert that a pair surfaces, if its slot gives one whose activation delay is over. Only the
tag and the category of that alert are not those of the slot. -/
def surfaced (set : EventSet) (context : Context) (pair : Event × Category) : Option Alert :=
  match set.outcome context pair with
  | some (.ok alert) =>
    if Cycles.required alert.activationDelay ≤
        Cycles.saturate ((set.persistence pair.1).toNat + 1) then
      some { alert with
        tag := pair.1.name ++ "/" ++ pair.2.name
        category := some pair.2 }
    else none
  | _ => none

/-! ### One pair -/

section Pair

variable {set : EventSet} {context : Context}

theorem mem_pairs {categories : List Category} {pair : Event × Category} :
    pair ∈ set.pairs categories ↔
      pair.1 ∈ set.active ∧ pair.2 ∈ categories ∧ set.table.hasCategory pair.1 pair.2 := by
  rw [pairs, List.mem_filter, List.mem_product, and_assoc]

theorem outcome_eq_map_build (set : EventSet) (context : Context) (pair : Event × Category) :
    set.outcome context pair = (set.table.slot? pair.1 pair.2).map fun slot =>
      slot.build context (Cycles.saturate ((set.persistence pair.1).toNat + 1)) := by
  rw [outcome]
  cases set.table.slot? pair.1 pair.2 with
  | none => rfl
  | some slot => cases slot <;> rfl

theorem outcome_eq_some_iff {pair : Event × Category} {result : Except MissingField Alert} :
    set.outcome context pair = some result ↔
      ∃ slot, set.table.slot? pair.1 pair.2 = some slot ∧
        slot.build context (Cycles.saturate ((set.persistence pair.1).toNat + 1)) = result := by
  rw [outcome_eq_map_build, Option.map_eq_some_iff]

theorem failure_eq_some_iff {pair : Event × Category} {cause : FactoryError} :
    set.failure context pair = some cause ↔
      ∃ missing, set.outcome context pair = some (.error missing) ∧
        cause = .missingLiveState pair.1 pair.2 missing.field := by
  rw [failure]
  cases set.outcome context pair with
  | none => simp
  | some result => cases result <;> simp [eq_comm]

theorem surfaced_eq_some_iff {pair : Event × Category} {alert : Alert} :
    set.surfaced context pair = some alert ↔
      ∃ built, set.outcome context pair = some (.ok built) ∧
        Cycles.required built.activationDelay ≤
          Cycles.saturate ((set.persistence pair.1).toNat + 1) ∧
        alert = built.resolved pair.1 pair.2 := by
  rw [surfaced]
  split
  · next built houtcome =>
    simp [houtcome, Alert.resolved, Alert.origin, eq_comm]
  · next hnone =>
    simp only [reduceCtorEq, false_iff, not_exists, not_and]
    exact fun built houtcome => absurd houtcome (hnone built)

/-- A slot that does not fail gives an alert. -/
theorem exists_build_of_failure_eq_none {event : Event} {category : Category} {slot : Slot}
    (hslot : set.table.slot? event category = some slot)
    (h : set.failure context (event, category) = none) :
    ∃ alert, slot.build context (Cycles.saturate ((set.persistence event).toNat + 1)) =
      .ok alert := by
  rw [failure, outcome_eq_map_build, hslot, Option.map_some] at h
  cases hbuild : slot.build context (Cycles.saturate ((set.persistence event).toNat + 1)) with
  | ok alert => exact ⟨alert, rfl⟩
  | error missing =>
      rw [hbuild] at h
      exact nomatch h

theorem surfaced_of_build {event : Event} {category : Category} {slot : Slot} {alert : Alert}
    (hslot : set.table.slot? event category = some slot)
    (hbuild : slot.build context (Cycles.saturate ((set.persistence event).toNat + 1)) =
      .ok alert) :
    set.surfaced context (event, category) =
      if Cycles.required alert.activationDelay ≤
          Cycles.saturate ((set.persistence event).toNat + 1) then
        some (alert.resolved event category)
      else none := by
  rw [surfaced, outcome_eq_map_build, hslot, Option.map_some, hbuild]
  rfl

section Congr

variable {left right : EventSet} (htable : left.table = right.table)
include htable

/-- What a pair comes to depends on the table and on the count of its event alone. -/
theorem outcome_eq {pair : Event × Category}
    (hpersistence : left.persistence pair.1 = right.persistence pair.1) :
    left.outcome context pair = right.outcome context pair := by
  rw [outcome, outcome, htable, hpersistence]

theorem failure_eq {pair : Event × Category}
    (hpersistence : left.persistence pair.1 = right.persistence pair.1) :
    left.failure context pair = right.failure context pair := by
  rw [failure, failure, outcome_eq htable hpersistence]

theorem surfaced_eq {pair : Event × Category}
    (hpersistence : left.persistence pair.1 = right.persistence pair.1) :
    left.surfaced context pair = right.surfaced context pair := by
  rw [surfaced, surfaced, outcome_eq htable hpersistence, hpersistence]

theorem failure_congr (hpersistence : ∀ event, left.persistence event = right.persistence event) :
    left.failure context = right.failure context :=
  funext fun pair => failure_eq htable (hpersistence pair.1)

theorem surfaced_congr (hpersistence : ∀ event, left.persistence event = right.persistence event) :
    left.surfaced context = right.surfaced context :=
  funext fun pair => surfaced_eq htable (hpersistence pair.1)

end Congr

end Pair

/-! ### From requests to pairs -/

theorem forall₂_filterMap_of_rel {α β γ : Type} {R : β → γ → Prop} {f : α → Option β}
    {g : α → Option γ} {items : List α} (h : ∀ item ∈ items, Option.Rel R (f item) (g item)) :
    List.Forall₂ R (items.filterMap f) (items.filterMap g) := by
  have hitems : List.Forall₂ (fun item item' => item = item' ∧ item ∈ items) items items :=
    List.forall₂_same.mpr fun item hitem => ⟨rfl, hitem⟩
  refine List.rel_filterMap ?_ hitems
  rintro item _ ⟨rfl, hitem⟩
  exact h item hitem

/-- The request of a pair. -/
def request? (set : EventSet) (pair : Event × Category) : Option Request :=
  (set.table.slot? pair.1 pair.2).map fun slot => ⟨pair.1, pair.2, slot, set.age pair.1⟩

/-- The pairs of one entry after those of the other. -/
theorem pairs_eq_flatMap (set : EventSet) (categories : List Category) :
    set.pairs categories = set.active.flatMap fun event =>
      (categories.map (event, ·)).filter fun pair => set.table.hasCategory pair.1 pair.2 := by
  -- The product of two lists is by definition the nested walk through them.
  change (set.active.flatMap fun event => categories.map (event, ·)).filter _ = _
  rw [List.filter_flatMap]

theorem filterMap_pairs {β : Type} (set : EventSet) (categories : List Category)
    (f : Event × Category → Option β) :
    (set.pairs categories).filterMap f = set.active.flatMap fun event =>
      ((categories.map (event, ·)).filter fun pair =>
        set.table.hasCategory pair.1 pair.2).filterMap f := by
  rw [pairs_eq_flatMap, List.filterMap_flatMap]

theorem requests_eq (set : EventSet) (categories : List Category) :
    set.requests categories = (set.pairs categories).filterMap set.request? := by
  have hslot : ∀ pair : Event × Category,
      (if set.table.hasCategory pair.1 pair.2 then set.request? pair else none) =
        set.request? pair := by
    intro pair
    rw [Table.hasCategory, request?]
    cases set.table.slot? pair.1 pair.2 <;> rfl
  rw [filterMap_pairs]
  simp only [List.filterMap_filter, hslot, List.filterMap_map]
  rfl

theorem failure_eq_bind (set : EventSet) (context : Context) (pair : Event × Category) :
    set.failure context pair = (set.request? pair).bind (Request.failure context) := by
  rw [failure, outcome_eq_map_build, request?]
  cases set.table.slot? pair.1 pair.2 with
  | none => rfl
  | some slot =>
      simp only [Option.map_some, Option.bind_some, Request.failure, Request.build, age,
        Cycles.next]
      cases slot.build context (Cycles.saturate ((set.persistence pair.1).toNat + 1)) <;> rfl

theorem surfaced_eq_bind (set : EventSet) (context : Context) (pair : Event × Category) :
    set.surfaced context pair = (set.request? pair).bind (Request.surfaced context) := by
  rw [surfaced, outcome_eq_map_build, request?]
  cases set.table.slot? pair.1 pair.2 with
  | none => rfl
  | some slot =>
      simp only [Option.map_some, Option.bind_some, Request.surfaced, Request.build, age,
        Cycles.next]
      cases slot.build context (Cycles.saturate ((set.persistence pair.1).toNat + 1)) with
      | error missing => rfl
      | ok alert =>
          simp only [Request.covers, decide_eq_true_eq]
          rfl

/-- A resolution in terms of pairs: the first failure, or else all that is surfaced. -/
theorem value_resolve (set : EventSet) (categories : List Category) (context : Context) :
    (set.resolve categories context).value =
      match ((set.pairs categories).filterMap (set.failure context)).head? with
      | some cause => .error cause
      | none => .ok ((set.pairs categories).filterMap (set.surfaced context)) := by
  rw [resolve, requests_eq, value_answer, List.filterMap_filterMap, List.filterMap_filterMap]
  simp only [← failure_eq_bind, ← surfaced_eq_bind]

theorem resolve_eq_error_iff {set : EventSet} {categories : List Category} {context : Context}
    {cause : FactoryError} :
    (set.resolve categories context).value = .error cause ↔
      ∃ before pair after, set.pairs categories = before ++ pair :: after ∧
        set.failure context pair = some cause ∧ ∀ earlier ∈ before, set.failure context earlier = none := by
  rw [value_resolve, ← List.findSome?_eq_some_iff, ← List.head?_filterMap]
  cases ((set.pairs categories).filterMap (set.failure context)).head? <;> simp

theorem resolve_eq_ok_iff {set : EventSet} {categories : List Category} {context : Context}
    {alerts : List Alert} :
    (set.resolve categories context).value = .ok alerts ↔
      (∀ pair ∈ set.pairs categories, set.failure context pair = none) ∧
        alerts = (set.pairs categories).filterMap (set.surfaced context) := by
  rw [value_resolve, ← List.findSome?_eq_none_iff, ← List.head?_filterMap]
  cases ((set.pairs categories).filterMap (set.failure context)).head? <;> simp [eq_comm]

/-- **The first failure decides, and without one everything that is due surfaces.** A resolution fails
exactly when the slot of some pair does, and then with the cause of the first such pair, whatever the
pairs before it surface and however far the activation delay of its own alert. Otherwise the alerts
are what the pairs surface, in the order of the pairs. -/
theorem resolve_is_first_failure_or_all_surfaced (set : EventSet) (categories : List Category)
    (context : Context) :
    ((∃ cause, (set.resolve categories context).value = .error cause) ↔
        ∃ pair ∈ set.pairs categories, (set.failure context pair).isSome) ∧
      (∀ cause, (set.resolve categories context).value = .error cause ↔
        ∃ before pair after, set.pairs categories = before ++ pair :: after ∧
          set.failure context pair = some cause ∧
          ∀ earlier ∈ before, set.failure context earlier = none) ∧
      ∀ alerts, (set.resolve categories context).value = .ok alerts ↔
        (∀ pair ∈ set.pairs categories, set.failure context pair = none) ∧
          alerts = (set.pairs categories).filterMap (set.surfaced context) := by
  refine ⟨?_, fun _ => resolve_eq_error_iff, fun _ => resolve_eq_ok_iff⟩
  constructor
  · rintro ⟨cause, herror⟩
    obtain ⟨before, pair, after, hpairs, hfailure, -⟩ := resolve_eq_error_iff.mp herror
    refine ⟨pair, ?_, ?_⟩
    · rw [hpairs]
      exact List.mem_append_right before List.mem_cons_self
    · rw [hfailure, Option.isSome_some]
  · rintro ⟨pair, hpair, hfailure⟩
    cases hvalue : (set.resolve categories context).value with
    | error cause => exact ⟨cause, rfl⟩
    | ok alerts =>
        rw [(resolve_eq_ok_iff.mp hvalue).1 pair hpair] at hfailure
        exact absurd hfailure Bool.false_ne_true

end EventSet

end DriverAlerts
