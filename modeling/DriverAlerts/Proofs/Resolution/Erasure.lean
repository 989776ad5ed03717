import DriverAlerts.Alert.Presets
import DriverAlerts.Proofs.EventSet.Erasure
import DriverAlerts.Proofs.Policy.Layout
import DriverAlerts.Proofs.Resolution.Debounce
/-!
# Events do not interfere

What a pair comes to is said by the table and by the count of its event, so leaving out other events
changes neither whether the pair fails nor what it surfaces. A resolution loses the pairs of the events
that are left out and nothing else, and as the first failure ends it, it may well succeed where the
full one fails. Events without slots have no pairs. With and without them a resolution is the same, from
its first request to its last notice.
-/

namespace DriverAlerts

open History

/-- The alert has the tag of an event. -/
def Alert.isOf (alert : Alert) (event : Event) : Bool :=
  Category.all.any fun category => alert.tag = Alert.origin event category

/-- The alert has the tag of an event that is kept. -/
def Alert.stemsFrom (keep : Event → Bool) (alert : Alert) : Bool :=
  Event.all.any fun event => keep event && alert.isOf event

/-- Items that lead to nothing can be left out. -/
theorem flatMap_filter_eq {α β : Type} {keep : α → Bool} {f g : α → List β} {items : List α}
    (hkept : ∀ item ∈ items, keep item → f item = g item)
    (hleft : ∀ item ∈ items, keep item = false → g item = []) :
    (items.filter keep).flatMap f = items.flatMap g := by
  induction items with
  | nil => rfl
  | cons item items ih =>
      rw [List.forall_mem_cons] at hkept hleft
      have hitems := ih hkept.2 hleft.2
      rw [List.flatMap_cons]
      cases hitem : keep item with
      | false => rw [List.filter_cons_of_neg (Bool.eq_false_iff.mp hitem), hleft.1 hitem, hitems,
          List.nil_append]
      | true => rw [List.filter_cons_of_pos hitem, List.flatMap_cons, hkept.1 hitem, hitems]

theorem Table.slot?_eq_none_of_silent {table : Table} {event : Event}
    (hsilent : (table.row? event).all Row.isSilent) (category : Category) :
    table.slot? event category = none := by
  rw [slot?]
  cases hrow : table.row? event with
  | none => rfl
  | some row =>
      rw [hrow, Option.all_some, Row.isSilent, List.isEmpty_iff,
        List.eq_nil_iff_forall_not_mem] at hsilent
      have hcategory := hsilent category
      rwa [Row.mem_categories, Row.has, Option.not_isSome_iff_eq_none] at hcategory

namespace EventSet

theorem stemsFrom_of_surfaced {set : EventSet} {context : Context} {pair : Event × Category}
    {alert : Alert} (h : set.surfaced context pair = some alert) (keep : Event → Bool) :
    alert.stemsFrom keep = keep pair.1 := by
  rw [Bool.eq_iff_iff, Alert.stemsFrom, List.any_eq_true]
  simp only [Alert.isOf, Bool.and_eq_true, List.any_eq_true, decide_eq_true_eq, tag_of_surfaced h,
    Alert.origin_inj]
  constructor
  · rintro ⟨event, -, hkeep, category, -, rfl, -⟩
    exact hkeep
  · intro hkeep
    exact ⟨pair.1, pair.1.mem_all, hkeep, pair.2, pair.2.mem_all, rfl, rfl⟩

/-- What a pair surfaces stems from the event of the pair. -/
theorem filter_stemsFrom_surfaced (set : EventSet) (context : Context) (keep : Event → Bool)
    (pair : Event × Category) :
    (set.surfaced context pair).filter (Alert.stemsFrom keep) =
      if keep pair.1 then set.surfaced context pair else none := by
  cases hsurfaced : set.surfaced context pair with
  | none => rw [Option.filter_none, ite_self]
  | some alert => rw [Option.filter_some, stemsFrom_of_surfaced hsurfaced]

namespace Restricts

variable {keep : Event → Bool} {part whole : EventSet} (h : part.Restricts keep whole)
include h

theorem pairs_eq (categories : List Category) :
    part.pairs categories = (whole.pairs categories).filter fun pair => keep pair.1 := by
  have hfirst : ∀ {event : Event} {pair : Event × Category},
      pair ∈ ((categories.map (event, ·)).filter fun pair =>
        whole.table.hasCategory pair.1 pair.2) → pair.1 = event := by
    intro event pair hpair
    obtain ⟨category, -, rfl⟩ := List.mem_map.mp (List.mem_of_mem_filter hpair)
    rfl
  rw [pairs_eq_flatMap, pairs_eq_flatMap, h.table, h.active, List.filter_flatMap]
  apply flatMap_filter_eq
  · intro event _ hkeep
    rw [eq_comm, List.filter_eq_self]
    exact fun pair hpair => (hfirst hpair).symm ▸ hkeep
  · intro event _ hkeep
    rw [List.filter_eq_nil_iff]
    exact fun pair hpair => (hfirst hpair).symm ▸ Bool.eq_false_iff.mp hkeep

/-- Without the events that are left out the others resolve as they did. -/
theorem resolve_eq_ok {categories : List Category} {context : Context} {alerts : List Alert}
    (hresolve : (whole.resolve categories context).value = .ok alerts) :
    (part.resolve categories context).value = .ok (alerts.filter (Alert.stemsFrom keep)) := by
  obtain ⟨hbuilds, rfl⟩ := resolve_eq_ok_iff.mp hresolve
  rw [resolve_eq_ok_iff, h.pairs_eq]
  constructor
  · intro pair hpair
    obtain ⟨hpair, hkeep⟩ := List.mem_filter.mp hpair
    rw [failure_eq h.table (h.persistence pair.1 hkeep)]
    exact hbuilds pair hpair
  · rw [List.filter_filterMap, List.filterMap_filter]
    apply List.filterMap_congr
    intro pair _
    rw [filter_stemsFrom_surfaced]
    cases hkeep : keep pair.1 with
    | false => rfl
    | true => rw [surfaced_eq h.table (h.persistence pair.1 hkeep)]

section Silent

variable (hsilent : ∀ event ∈ whole.active, keep event = false →
  (whole.table.row? event).all Row.isSilent)
include hsilent

theorem requests_eq (categories : List Category) :
    part.requests categories = whole.requests categories := by
  rw [requests, h.active, requests]
  apply flatMap_filter_eq
  · intro event _ hkeep
    rw [requestsOf, requestsOf, h.table, age, age, h.persistence event hkeep]
  · intro event hevent hleft
    rw [requestsOf, List.filterMap_eq_nil_iff]
    intro category _
    rw [Table.slot?_eq_none_of_silent (hsilent event hevent hleft), Option.map_none]

theorem hasCategory_eq (category : Category) :
    part.hasCategory category = whole.hasCategory category := by
  rw [hasCategory, h.active, h.table, List.any_filter, hasCategory, Bool.eq_iff_iff,
    List.any_eq_true, List.any_eq_true]
  refine exists_congr fun event => and_congr_right fun hevent => ?_
  cases hkeep : keep event with
  | true => rw [Bool.true_and]
  | false =>
      have hnone : whole.table.hasCategory event category = false := by
        rw [Table.hasCategory, Table.slot?_eq_none_of_silent (hsilent event hevent hkeep)]
        rfl
      rw [hnone, Bool.and_false]

end Silent

end Restricts

end EventSet

/-- **Events do not interfere.** A run is told again without the additions of the events that are not
kept. The set that it leaves has the kept events in the same order and with the same counts, and is in
the same cycle. What the full set resolves to, if it resolves, the restricted one resolves to as well,
but for the alerts of the events that are left out. If all that was left out is silent or has no row, the
two sets resolve alike in every respect, with the same error if there is one and the same notices, and
no question about categories tells them apart. -/
theorem events_do_not_interfere (table : Table) (keep : Event → Bool) (commands : List Command) :
    (run table (restrict keep commands)).active = (run table commands).active.filter keep ∧
      (∀ event, keep event → (run table (restrict keep commands)).persistence event =
        (run table commands).persistence event) ∧
      (run table (restrict keep commands)).cycle = (run table commands).cycle ∧
      (∀ categories context alerts,
        ((run table commands).resolve categories context).value = .ok alerts →
        ((run table (restrict keep commands)).resolve categories context).value =
          .ok (alerts.filter (Alert.stemsFrom keep))) ∧
      ((∀ addition ∈ commands.flatMap Command.additions, keep addition.event = false →
          (table.row? addition.event).all Row.isSilent) →
        (∀ categories context, (run table (restrict keep commands)).resolve categories context =
          (run table commands).resolve categories context) ∧
        ∀ category, (run table (restrict keep commands)).hasCategory category =
          (run table commands).hasCategory category) := by
  have h := restricts_run table keep commands
  refine ⟨h.active, h.persistence, h.cycle, fun categories context alerts => h.resolve_eq_ok,
    fun hsilent => ?_⟩
  have hleft : ∀ event ∈ (run table commands).active, keep event = false →
      ((run table commands).table.row? event).all Row.isSilent := by
    intro event hevent
    obtain ⟨addition, haddition, rfl⟩ := exists_addition_of_mem_active hevent
    rw [table_run]
    exact hsilent addition haddition
  refine ⟨fun categories context => ?_, h.hasCategory_eq hleft⟩
  rw [EventSet.resolve, h.requests_eq hleft, EventSet.resolve]

/-- A table that shows two events and has a silent row for a third. -/
def quietGps : Table :=
  .ofRows fun event =>
    if event = .overheat then
      some (.ofSlots [(.permanent, .fixed (Presets.normalPermanent "Overheated" ""))])
    else if event = .canError then
      some (.ofSlots [(.permanent, .fixed (Presets.normalPermanent "CAN Error" ""))])
    else if event = .noGps then some .silent
    else none

/-- The silent event is there throughout, and in the second cycle there is one without a row. -/
def gpsLost : List Command :=
  [.add .noGps true, .add .overheat true, .reset, .add .stockFcw false, .add .canError false]

def isShown (event : Event) : Bool :=
  event = .overheat ∨ event = .canError

/-- Without the bus error the other alert is what it was, and without what is never shown both are. -/
theorem erasure_of_gpsLost :
    ∃ alerts, ((run quietGps gpsLost).resolve [.permanent] parked).value = .ok alerts ∧
      alerts.map Alert.tag = ["overheat/permanent", "canError/permanent"] ∧
      ((run quietGps (restrict (· = .overheat) gpsLost)).resolve [.permanent] parked).value =
        .ok (alerts.take 1) ∧
      (run quietGps (restrict (· = .overheat) gpsLost)).persistence .overheat =
        (run quietGps gpsLost).persistence .overheat ∧
      (∀ addition ∈ gpsLost.flatMap Command.additions, isShown addition.event = false →
        (quietGps.row? addition.event).all Row.isSilent) ∧
      (run quietGps (restrict isShown gpsLost)).resolve [.permanent, .warning] parked =
        (run quietGps gpsLost).resolve [.permanent, .warning] parked := by
  have hresolve : ((run quietGps gpsLost).resolve [.permanent] parked).value = .ok
      [(Presets.normalPermanent "Overheated" "").resolved .overheat .permanent,
        (Presets.normalPermanent "CAN Error" "").resolved .canError .permanent] := by rfl
  obtain ⟨-, hpersistence, -, hok, -⟩ := events_do_not_interfere quietGps (· = .overheat) gpsLost
  obtain ⟨-, -, -, -, hquiet⟩ := events_do_not_interfere quietGps isShown gpsLost
  have hsilent : ∀ addition ∈ gpsLost.flatMap Command.additions, isShown addition.event = false →
      (quietGps.row? addition.event).all Row.isSilent := by decide
  refine ⟨_, hresolve, by decide, ?_, hpersistence .overheat rfl, hsilent, (hquiet hsilent).1 _ _⟩
  exact (hok _ _ _ hresolve).trans rfl

end DriverAlerts
