import DriverAlerts.Proofs.EventSet.Persistence
import DriverAlerts.Proofs.Policy.Wording
import DriverAlerts.Proofs.Resolution.Standard
import DriverAlerts.Proofs.Selection
/-!
# Neither wording nor context arbitrates

Two loops over standard tables with one window, in whatever languages and contexts, go through the same
requests at the same ages once they have seen the same commands. For each request the two alerts act
alike, so both are due or neither is, and the lists of alerts run in parallel. What is chosen from them
rests on priorities and categories, and is therefore found in the same places.
-/

namespace DriverAlerts

namespace EventSet

section Parallel

variable {wording wording' : Wording} {window : Float} {set set' : EventSet}
  {context context' : Context}

theorem pairs_standard_eq (htable : Standard.table wording window = .ok set.table)
    (htable' : Standard.table wording' window = .ok set'.table) (hactive : set.active = set'.active)
    (categories : List Category) : set.pairs categories = set'.pairs categories := by
  have hlayout := Standard.sameLayout_table htable htable'
  have hcategory : ∀ pair : Event × Category,
      set.table.hasCategory pair.1 pair.2 = set'.table.hasCategory pair.1 pair.2 :=
    fun pair => (hlayout pair.1).2 pair.2
  simp only [pairs, hactive, hcategory]

theorem surfaced_standard_rel (htable : Standard.table wording window = .ok set.table)
    (htable' : Standard.table wording' window = .ok set'.table) {event : Event}
    {category : Category} (hpersistence : set.persistence event = set'.persistence event)
    (hok : set.failure context (event, category) = none)
    (hok' : set'.failure context' (event, category) = none) :
    Option.Rel (fun alert alert' => alert.ActsLike alert' ∧
        (wording.EmptyAlike wording' → alert.size = alert'.size))
      (set.surfaced context (event, category)) (set'.surfaced context' (event, category)) := by
  cases hslot : set.table.slot? event category with
  | none =>
      have hcategory := ((Standard.sameLayout_table htable htable') event).2 category
      rw [Table.hasCategory, Table.hasCategory, hslot, Option.isSome_none, eq_comm,
        Option.isSome_eq_false_iff, Option.isNone_iff_eq_none] at hcategory
      rw [surfaced, outcome, hslot, surfaced, outcome, hcategory]
      exact .none
  | some slot =>
      obtain ⟨plan, hplan, rfl⟩ := (Standard.slot?_table htable).mp hslot
      have hslot' := (Standard.slot?_table htable').mpr ⟨plan, hplan, rfl⟩
      obtain ⟨alert, hbuild⟩ := exists_build_of_failure_eq_none hslot hok
      obtain ⟨alert', hbuild'⟩ := exists_build_of_failure_eq_none hslot' hok'
      rw [surfaced_of_build hslot hbuild, surfaced_of_build hslot' hbuild', ← hpersistence]
      rw [← hpersistence] at hbuild'
      have halike := SlotPlan.actsLike_of_build hbuild hbuild'
      have hsize : wording.EmptyAlike wording' → alert.size = alert'.size :=
        fun hempty => SlotPlan.size_of_build hempty hbuild hbuild'
      rw [halike.activationDelay]
      split
      · exact .some ⟨halike.resolved event category, hsize⟩
      · exact .none

/-- Loops over standard tables that agree on what is active, and for how long, surface alerts that
act alike. -/
theorem forall₂_of_resolve_standard (htable : Standard.table wording window = .ok set.table)
    (htable' : Standard.table wording' window = .ok set'.table) (hactive : set.active = set'.active)
    (hpersistence : ∀ event, set.persistence event = set'.persistence event)
    {categories : List Category} {alerts alerts' : List Alert}
    (hresolve : (set.resolve categories context).value = .ok alerts)
    (hresolve' : (set'.resolve categories context').value = .ok alerts') :
    List.Forall₂ (fun alert alert' => alert.ActsLike alert' ∧
      (wording.EmptyAlike wording' → alert.size = alert'.size)) alerts alerts' := by
  obtain ⟨hok, rfl⟩ := resolve_eq_ok_iff.mp hresolve
  obtain ⟨hok', rfl⟩ := resolve_eq_ok_iff.mp hresolve'
  rw [← pairs_standard_eq htable htable' hactive] at hok' ⊢
  apply forall₂_filterMap_of_rel
  rintro ⟨event, category⟩ hpair
  exact surfaced_standard_rel htable htable' (hpersistence event) (hok _ hpair) (hok' _ hpair)

end Parallel

end EventSet

namespace Selection

theorem highestAt_eq_of_actsLike {alerts alerts' : List Alert}
    (h : List.Forall₂ Alert.ActsLike alerts alerts') : highestAt alerts = highestAt alerts' := by
  have hwinner := highest_rel Prod.fst Prod.fst (fun _ _ h => h.1.priority) (forall₂_zipIdx h)
  rw [highestAt, highestAt]
  generalize highest Prod.fst alerts.zipIdx = winner at hwinner ⊢
  generalize highest Prod.fst alerts'.zipIdx = winner' at hwinner ⊢
  cases hwinner with
  | none => rfl
  | some hplace => exact congrArg some hplace.2

theorem perCategoryAt_eq_of_actsLike {alerts alerts' : List Alert}
    (h : List.Forall₂ Alert.ActsLike alerts alerts') :
    perCategoryAt alerts = perCategoryAt alerts' := by
  have hwinners := perCategory_rel Prod.fst Prod.fst (fun _ _ h => h.1.priority)
    (fun _ _ h => h.1.category) (forall₂_zipIdx h)
  rw [perCategoryAt, perCategoryAt, ← List.forall₂_eq_eq_eq, List.forall₂_map_left_iff,
    List.forall₂_map_right_iff]
  exact hwinners.imp fun _ _ hentry => Prod.ext hentry.1 hentry.2.2

end Selection

/-- **Neither wording nor context arbitrates.** Two loops over standard tables of whatever catalogs, with
one window, have seen the same commands, and both resolutions succeed, in whatever contexts. Then their
alerts run in parallel and agree in all but the lines and the size, and in the size too if the catalogs
have the same empty texts, as one catalog has with itself. So the alerts that are chosen, among all and
within each category, stand in the same places. -/
theorem choice_ignores_wording_and_context {catalog catalog' : Catalog} {window : Float}
    {table table' : Table} (htable : Table.standardWithCatalog catalog window = .ok table)
    (htable' : Table.standardWithCatalog catalog' window = .ok table') {commands : List Command}
    {categories : List Category} {context context' : Context} {alerts alerts' : List Alert}
    (hresolve : ((run table commands).resolve categories context).value = .ok alerts)
    (hresolve' : ((run table' commands).resolve categories context').value = .ok alerts') :
    List.Forall₂ Alert.ActsLike alerts alerts' ∧
      ((∀ key, catalog.textOrEmpty key = "" ↔ catalog'.textOrEmpty key = "") →
        alerts.map Alert.size = alerts'.map Alert.size) ∧
      Selection.highestAt alerts = Selection.highestAt alerts' ∧
      Selection.perCategoryAt alerts = Selection.perCategoryAt alerts' ∧
      ∀ resolved ∈ [alerts, alerts'],
        Selection.highest id resolved = (Selection.highestAt alerts).bind (resolved[·]?) ∧
        (Selection.perCategory id resolved).map (fun entry => (entry.1, some entry.2)) =
          (Selection.perCategoryAt alerts).map fun entry => (entry.1, resolved[entry.2]?) := by
  have hmade := (Table.standardWithCatalog_eq_ok_iff.mp htable).2
  have hmade' := (Table.standardWithCatalog_eq_ok_iff.mp htable').2
  have hactive : (run table commands).active = (run table' commands).active := by
    rw [active_run, active_run]
  have hpersistence : ∀ event,
      (run table commands).persistence event = (run table' commands).persistence event := by
    intro event
    rw [persistence_run, persistence_run, Standard.contains_table hmade,
      Standard.contains_table hmade']
  have halike := EventSet.forall₂_of_resolve_standard (by rw [table_run, hmade])
    (by rw [table_run, hmade']) hactive hpersistence hresolve hresolve'
  have hacts : List.Forall₂ Alert.ActsLike alerts alerts' := halike.imp fun _ _ h => h.1
  have hhighest := Selection.highestAt_eq_of_actsLike hacts
  have hcategories := Selection.perCategoryAt_eq_of_actsLike hacts
  refine ⟨hacts, fun hempty => ?_, hhighest, hcategories, ?_⟩
  · rw [← List.forall₂_eq_eq_eq, List.forall₂_map_left_iff, List.forall₂_map_right_iff]
    exact halike.imp fun _ _ h => h.2 hempty
  · simp only [List.forall_mem_cons]
    refine ⟨⟨Selection.highest_eq_bind_highestAt alerts,
      Selection.perCategory_eq_map_perCategoryAt alerts⟩, ⟨?_, ?_⟩, List.forall_mem_nil _⟩
    · rw [hhighest]
      exact Selection.highest_eq_bind_highestAt alerts'
    · rw [hcategories]
      exact Selection.perCategory_eq_map_perCategoryAt alerts'

/-- Something hot for a second cycle, a debug joystick, and an open door. -/
def hotWithJoystick : List Command :=
  [.add .overheat true, .add .joystickDebug false, .reset, .add .joystickDebug false,
    .add .doorOpen false]

/-- A replay in imperial units, with both axes of the joystick at work. -/
def replaying : Context :=
  ⟨⟨"mock", 5.0, 8.0⟩, ⟨some 42, [0.25, -1.0], some "main", true⟩, false⟩

theorem choice_of_hotWithJoystick :
    ∃ english russian alerts alerts',
      Table.standardWithCatalog (.embedded .en) 0.02 = .ok english ∧
      Table.standardWithCatalog (.embedded .ru) 0.02 = .ok russian ∧
      ((run english hotWithJoystick).resolve [.warning, .softDisable]
        (unsettled none)).value = .ok alerts ∧
      ((run russian hotWithJoystick).resolve [.warning, .softDisable]
        replaying).value = .ok alerts' ∧
      List.Forall₂ Alert.ActsLike alerts alerts' ∧ Selection.highestAt alerts' = some 2 := by
  obtain ⟨english, henglish⟩ := Table.exists_standard_embedded .en 0.02
  obtain ⟨russian, hrussian⟩ := Table.exists_standard_embedded .ru 0.02
  have hresolves : ∀ {locale table}, Table.standardWithCatalog (.embedded locale) 0.02 = .ok table →
      ∀ context, ∃ alerts, ((run table hotWithJoystick).resolve [.warning, .softDisable]
        context).value = .ok alerts := by
    intro locale table htable context
    have hmade : Standard.table (.ofTexts (Catalog.embedded locale).textOrEmpty) 0.02 =
        .ok (run table hotWithJoystick).table := by
      rw [table_run]
      exact (Table.standardWithCatalog_eq_ok_iff.mp htable).2
    exact EventSet.exists_ok_standard hmade context fun h => absurd h.2.1 (by decide)
  obtain ⟨alerts, halerts⟩ := hresolves henglish (unsettled none)
  obtain ⟨alerts', halerts'⟩ := hresolves hrussian replaying
  obtain ⟨halike, -, hhighest, -⟩ :=
    choice_ignores_wording_and_context henglish hrussian halerts halerts'
  -- The door is last, and of the three only it is inside the window.
  have hplace : ((Standard.table (.ofTexts (Catalog.embedded .en).textOrEmpty) 0.02).toOption.bind
      fun table => ((run table hotWithJoystick).resolve [.warning, .softDisable]
        (unsettled none)).value.toOption.bind Selection.highestAt) = some 2 := by decide +kernel
  rw [(Table.standardWithCatalog_eq_ok_iff.mp henglish).2, Except.toOption, Option.bind_some, halerts,
    Except.toOption, Option.bind_some, hhighest] at hplace
  exact ⟨english, russian, alerts, alerts', henglish, hrussian, halerts, halerts', halike, hplace⟩

end DriverAlerts
