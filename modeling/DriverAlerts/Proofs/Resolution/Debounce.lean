import DriverAlerts.Alert.Presets
import DriverAlerts.Proofs.EventSet.Persistence
import DriverAlerts.Proofs.Resolution.Reference
import Mathlib.Data.List.Count
/-!
# Debounce

An alert is shown once its event has been active for the activation delay, and the tags of a
resolution show which alerts those are: a tag names one pair, so the alerts of a tag are as many as
the entries of its event, or none. How long the event has been active is read off the resets of the
run. The current cycle counts although it is not complete, and the delay is compared with a count
that stops at the limit, which no delay exceeds.
-/

namespace DriverAlerts

open History

theorem Table.contains_of_slot? {table : Table} {event : Event} {category : Category} {slot : Slot}
    (hslot : table.slot? event category = some slot) : table.contains event := by
  rw [Table.slot?, Option.bind_eq_some_iff] at hslot
  obtain ⟨row, hrow, _⟩ := hslot
  rw [Table.contains, hrow, Option.isSome_some]

namespace EventSet

/-! ### The alerts of one tag -/

theorem tag_of_surfaced {set : EventSet} {context : Context} {pair : Event × Category}
    {alert : Alert} (h : set.surfaced context pair = some alert) :
    alert.tag = Alert.origin pair.1 pair.2 := by
  rw [surfaced] at h
  split at h
  · split at h
    · rw [← Option.some.inj h]
      rfl
    · exact absurd h (by simp)
  · exact absurd h (by simp)

/-- A pair surfaces an alert of a tag exactly when the tag is its own and it surfaces any. -/
theorem surfaces_tag_iff {set : EventSet} {context : Context} {pair : Event × Category}
    {event : Event} {category : Category} :
    ((set.surfaced context pair).map
        fun alert => decide (alert.tag = Alert.origin event category)).getD false ↔
      pair = (event, category) ∧ (set.surfaced context (event, category)).isSome := by
  cases hsurfaced : set.surfaced context pair with
  | none =>
      rw [Option.map_none, Option.getD_none]
      constructor
      · intro h
        exact absurd h Bool.false_ne_true
      · rintro ⟨rfl, hsome⟩
        rw [hsurfaced] at hsome
        exact absurd hsome Bool.false_ne_true
  | some alert =>
      rw [Option.map_some, Option.getD_some, tag_of_surfaced hsurfaced, decide_eq_true_eq,
        Alert.origin_inj]
      constructor
      · rintro ⟨rfl, rfl⟩
        exact ⟨rfl, by rw [hsurfaced, Option.isSome_some]⟩
      · rintro ⟨rfl, _⟩
        exact ⟨rfl, rfl⟩

theorem count_product (events : List Event) (categories : List Category) (event : Event)
    (category : Category) :
    (events ×ˢ categories).count (event, category) =
      events.count event * categories.count category := by
  induction events with
  | nil => rw [List.nil_product, List.count_nil, List.count_nil, Nat.zero_mul]
  | cons first events ih =>
      rw [List.product_cons, List.count_append, ih, List.count_cons, Nat.add_mul, Nat.add_comm]
      congr 1
      by_cases hfirst : first = event
      · subst hfirst
        have hinjective : Function.Injective (Prod.mk first : Category → Event × Category) :=
          fun _ _ h => (Prod.mk.inj h).2
        rw [List.count_map_of_injective _ _ hinjective, if_pos (beq_self_eq_true first), Nat.one_mul]
      · rw [if_neg (by simpa using hfirst), Nat.zero_mul, List.count_eq_zero]
        intro hmem
        obtain ⟨_, _, hpair⟩ := List.mem_map.mp hmem
        exact hfirst (Prod.mk.inj hpair).1

theorem count_pairs (set : EventSet) {categories : List Category} {event : Event}
    {category : Category} (hslot : set.table.hasCategory event category)
    (honce : categories.count category = 1) :
    (set.pairs categories).count (event, category) = set.active.count event := by
  have hkept : (set.pairs categories).count (event, category) =
      (set.active ×ˢ categories).count (event, category) := List.count_filter hslot
  rw [hkept, count_product, honce, Nat.mul_one]

/-- A pair that is asked for once surfaces as often as its event is active, or not at all. -/
theorem countP_tag_surfaced (set : EventSet) (context : Context) {categories : List Category}
    {event : Event} {category : Category} (hslot : set.table.hasCategory event category)
    (honce : categories.count category = 1) :
    ((set.pairs categories).filterMap (set.surfaced context)).countP
        (fun alert => alert.tag = Alert.origin event category) =
      if (set.surfaced context (event, category)).isSome then set.active.count event else 0 := by
  rw [List.countP_filterMap]
  cases hshown : (set.surfaced context (event, category)).isSome with
  | false =>
      rw [if_neg Bool.false_ne_true, List.countP_eq_zero]
      intro pair _ htag
      have hsome := (surfaces_tag_iff.mp htag).2
      rw [hshown] at hsome
      exact Bool.false_ne_true hsome
  | true =>
      have hpair : ∀ pair ∈ set.pairs categories,
          ((set.surfaced context pair).map
            fun alert => decide (alert.tag = Alert.origin event category)).getD false ↔
          (pair == (event, category)) = true := by
        intro pair _
        rw [surfaces_tag_iff, hshown, beq_iff_eq]
        exact and_iff_left rfl
      rw [if_pos rfl, List.countP_congr hpair, ← count_pairs set hslot honce, List.count]

section Resolved

variable {set : EventSet} {categories : List Category} {context : Context} {alerts : List Alert}
  {event : Event} {category : Category} {slot : Slot}

/-- What a slot gives is due when the event is old enough. -/
theorem isSome_surfaced {alert : Alert} (hslot : set.table.slot? event category = some slot)
    (hbuild : slot.build context (Cycles.saturate ((set.persistence event).toNat + 1)) = .ok alert) :
    (set.surfaced context (event, category)).isSome ↔
      Cycles.required alert.activationDelay ≤
        Cycles.saturate ((set.persistence event).toNat + 1) := by
  rw [surfaced_of_build hslot hbuild]
  by_cases hdue : Cycles.required alert.activationDelay ≤
      Cycles.saturate ((set.persistence event).toNat + 1)
  · rw [if_pos hdue, Option.isSome_some]
    exact iff_of_true rfl hdue
  · rw [if_neg hdue, Option.isSome_none]
    exact iff_of_false Bool.false_ne_true hdue

/-- A resolution that succeeds has built the alert of every pair, due or not. -/
theorem exists_build_of_resolve_ok (hslot : set.table.slot? event category = some slot)
    (hcategory : category ∈ categories) (hactive : event ∈ set.active)
    (hresolve : (set.resolve categories context).value = .ok alerts) :
    ∃ alert, slot.build context (Cycles.saturate ((set.persistence event).toNat + 1)) =
      .ok alert := by
  have hpair : (event, category) ∈ set.pairs categories := by
    refine mem_pairs.mpr ⟨hactive, hcategory, ?_⟩
    rw [Table.hasCategory, hslot, Option.isSome_some]
  exact exists_build_of_failure_eq_none hslot ((resolve_eq_ok_iff.mp hresolve).1 _ hpair)

/-- The alerts with the tag of a pair that is asked for once. -/
theorem count_tag_of_resolve_ok (hslot : set.table.slot? event category = some slot)
    (honce : categories.count category = 1)
    (hresolve : (set.resolve categories context).value = .ok alerts) :
    (alerts.map Alert.tag).count (Alert.origin event category) =
      if (set.surfaced context (event, category)).isSome then set.active.count event else 0 := by
  have hrow : set.table.hasCategory event category := by
    rw [Table.hasCategory, hslot, Option.isSome_some]
  rw [← countP_tag_surfaced set context hrow honce, ← (resolve_eq_ok_iff.mp hresolve).2, List.count,
    List.countP_map]
  apply List.countP_congr
  intro alert _
  rw [Function.comp_apply, beq_iff_eq, decide_eq_true_eq]

/-- An alert that is due appears once for each entry of its event. -/
theorem filter_tag_of_resolve_ok {alert : Alert}
    (hslot : set.table.slot? event category = some slot) (honce : categories.count category = 1)
    (hbuild : slot.build context (Cycles.saturate ((set.persistence event).toNat + 1)) = .ok alert)
    (hdue : Cycles.required alert.activationDelay ≤
      Cycles.saturate ((set.persistence event).toNat + 1))
    (hresolve : (set.resolve categories context).value = .ok alerts) :
    alerts.filter (fun shown => shown.tag = Alert.origin event category) =
      List.replicate (set.active.count event) (alert.resolved event category) := by
  have hsurfaced : set.surfaced context (event, category) =
      some (alert.resolved event category) := by
    rw [surfaced_of_build hslot hbuild, if_pos hdue]
  rw [List.eq_replicate_iff]
  constructor
  · have hcount := count_tag_of_resolve_ok hslot honce hresolve
    rw [hsurfaced, Option.isSome_some, if_pos rfl, List.count, List.countP_map] at hcount
    rw [← hcount, ← List.countP_eq_length_filter]
    apply List.countP_congr
    intro shown _
    rw [Function.comp_apply, beq_iff_eq, decide_eq_true_eq]
  · intro shown hshown
    obtain ⟨hmem, htag⟩ := List.mem_filter.mp hshown
    rw [(resolve_eq_ok_iff.mp hresolve).2, List.mem_filterMap] at hmem
    obtain ⟨⟨event', category'⟩, -, hpair⟩ := hmem
    rw [decide_eq_true_eq, tag_of_surfaced hpair, Alert.origin_inj] at htag
    obtain ⟨rfl, rfl⟩ := htag
    rw [hsurfaced] at hpair
    exact (Option.some.inj hpair).symm

end Resolved

end EventSet

/-! ### How long an event has been active -/

/-- For each cycle that commands complete, the earliest first, whether the event was active in the set
when they completed it. -/
def EventSet.activeAtResets (set : EventSet) (event : Event) : List Command → List Bool
  | [] => []
  | command :: commands =>
    if command.isReset then
      set.contains event :: (command.apply set).activeAtResets event commands
    else (command.apply set).activeAtResets event commands

theorem EventSet.activeAtResets_concat (set : EventSet) (event : Event) (commands : List Command)
    (command : Command) :
    set.activeAtResets event (commands ++ [command]) =
      set.activeAtResets event commands ++
        if command.isReset then
          [(commands.foldl (fun set command => command.apply set) set).contains event]
        else [] := by
  induction commands generalizing set with
  | nil =>
      rw [List.nil_append, activeAtResets, activeAtResets]
      cases command.isReset <;> rfl
  | cons first commands ih =>
      rw [List.cons_append, activeAtResets, activeAtResets, ih, List.foldl_cons]
      cases first.isReset <;> rfl

/-- What is seen at the resets is what the history says. -/
theorem activeAtResets_eq_presence (table : Table) (commands : List Command) (event : Event) :
    (EventSet.new table).value.activeAtResets event commands = presence commands event := by
  induction commands using List.reverseRecOn with
  | nil => rfl
  | append_singleton commands command ih =>
      rw [EventSet.activeAtResets_concat, ih, ← run]
      cases hcommand : command.isReset with
      | false =>
          rw [if_neg Bool.false_ne_true, List.append_nil, presence_concat_of_not_reset hcommand]
      | true => rw [if_pos rfl, contains_run, presence_concat_of_reset hcommand]

/-- For how many cycles in a row the event has been active once the current one is counted as well. -/
def span (table : Table) (commands : List Command) (event : Event) : Nat :=
  streak ((EventSet.new table).value.activeAtResets event commands) + 1

/-- After a run an event with a row has the age that the history says. -/
theorem age_run {table : Table} {event : Event} (hrow : table.contains event)
    (commands : List Command) :
    Cycles.saturate (((run table commands).persistence event).toNat + 1) =
      Cycles.saturate (span table commands event) := by
  rw [persistence_run, if_pos hrow, ← Cycles.next, Cycles.next_saturate, span,
    activeAtResets_eq_presence]

/-- Cycles at the end of a history in which something was present, and one before in which it was not. -/
theorem streak_append_replicate {earlier : List Bool} (hearlier : earlier.getLast? ≠ some true)
    (n : Nat) : streak (earlier ++ List.replicate n true) = n := by
  induction n with
  | zero =>
      rw [List.replicate_zero, List.append_nil]
      cases earlier using List.reverseRecOn with
      | nil => rfl
      | append_singleton earlier last =>
          rw [List.getLast?_concat] at hearlier
          rw [streak_concat, if_neg fun hlast => hearlier (congrArg some hlast)]
  | succ n ih =>
      rw [List.replicate_succ', ← List.append_assoc, streak_concat, if_pos rfl, ih]

/-- **An alert is shown once its event has been active for the activation delay.** With the current
cycle included, the event has been active for the number of cycles that the resets of the run show, cut
off at the greatest count. When the slot gives an alert for that count whose delay it covers, there is
one alert with the tag of the pair for each entry of the event, and otherwise there is none. If the
delay is always the same, then in a stretch of cycles in which the event is active and which begins
after a cycle without it, the alert is there from the cycle on that covers the delay, however long the
stretch. -/
theorem tag_count_follows_debounce {table : Table} {commands : List Command} {event : Event}
    {category : Category} {slot : Slot} {categories : List Category} {context : Context}
    {alerts : List Alert} (hslot : table.slot? event category = some slot)
    (honce : categories.count category = 1)
    (hresolve : ((run table commands).resolve categories context).value = .ok alerts) :
    (∀ alert, slot.build context (Cycles.saturate (span table commands event)) = .ok alert →
        (alerts.map Alert.tag).count (Alert.origin event category) =
          if Cycles.required alert.activationDelay ≤ Cycles.saturate (span table commands event) then
            (run table commands).active.count event
          else 0) ∧
      (event ∈ (run table commands).active →
        ∃ alert, slot.build context (Cycles.saturate (span table commands event)) = .ok alert) ∧
      (event ∉ (run table commands).active →
        (alerts.map Alert.tag).count (Alert.origin event category) = 0) ∧
      ∀ delay earlier n,
        (∀ context age alert, slot.build context age = .ok alert → alert.activationDelay = delay) →
        (EventSet.new table).value.activeAtResets event commands =
          earlier ++ List.replicate n true →
        earlier.getLast? ≠ some true →
        event ∈ (run table commands).active →
        (Alert.origin event category ∈ alerts.map Alert.tag ↔
          (Cycles.required delay).toNat ≤ n + 1) := by
  have hage := age_run (Table.contains_of_slot? hslot) commands
  have hslot' : (run table commands).table.slot? event category = some slot := by
    rw [table_run, hslot]
  have hcount := EventSet.count_tag_of_resolve_ok hslot' honce hresolve
  have hbuilt : ∀ alert, slot.build context (Cycles.saturate (span table commands event)) = .ok alert →
      (alerts.map Alert.tag).count (Alert.origin event category) =
        if Cycles.required alert.activationDelay ≤ Cycles.saturate (span table commands event) then
          (run table commands).active.count event
        else 0 := by
    intro alert hbuild
    rw [← hage] at hbuild ⊢
    rw [hcount]
    simp only [EventSet.isSome_surfaced hslot' hbuild]
  have hexists : event ∈ (run table commands).active →
      ∃ alert, slot.build context (Cycles.saturate (span table commands event)) = .ok alert := by
    intro hactive
    have hcategory : category ∈ categories := List.count_pos_iff.mp (by omega)
    rw [← hage]
    exact EventSet.exists_build_of_resolve_ok hslot' hcategory hactive hresolve
  refine ⟨hbuilt, hexists, fun habsent => ?_, ?_⟩
  · rw [hcount, List.count_eq_zero.mpr habsent, ite_self]
  · intro delay earlier n hdelay hhistory hearlier hactive
    obtain ⟨alert, hbuild⟩ := hexists hactive
    have hspan : span table commands event = n + 1 := by
      rw [span, hhistory, streak_append_replicate hearlier]
    rw [← List.count_pos_iff, hbuilt alert hbuild, hdelay _ _ _ hbuild, hspan,
      ← Cycles.le_saturate_iff]
    by_cases hdue : Cycles.required delay ≤ Cycles.saturate (n + 1)
    · rw [if_pos hdue]
      exact iff_of_true (List.count_pos_iff.mpr hactive) hdue
    · rw [if_neg hdue]
      exact iff_of_false (Nat.lt_irrefl 0) hdue

/-- An alert that is due in the third cycle. -/
def dueInThird : Alert :=
  (Presets.normalPermanent "CAN Error" "").withActivationDelay 0.03

def dueInThirdTable : Table :=
  .ofRows fun event =>
    if event = .canError then some (.ofSlots [(.permanent, .fixed dueInThird)]) else none

/-- One cycle with the event, one without, and then three with it, in the last one twice. -/
def stretchAfterGap : List Command :=
  [.add .canError false, .reset, .reset, .add .canError false, .reset, .add .canError false, .reset,
    .add .canError false, .add .canError false]

def parked : Context :=
  ⟨⟨"mock", 0, 0⟩, ⟨none, [], none, false⟩, true⟩

theorem tag_count_of_stretchAfterGap :
    dueInThirdTable.slot? .canError .permanent = some (.fixed dueInThird) ∧
      [Category.warning, .permanent].count .permanent = 1 ∧
      ∃ alerts, ((run dueInThirdTable stretchAfterGap).resolve [.warning, .permanent]
          parked).value = .ok alerts ∧
        (alerts.map Alert.tag).count "canError/permanent" = 2 ∧
        "canError/permanent" ∈ alerts.map Alert.tag := by
  have hslot : dueInThirdTable.slot? .canError .permanent = some (.fixed dueInThird) := by rfl
  have honce : [Category.warning, .permanent].count .permanent = 1 := by decide
  have hbuilds : ∀ pair ∈ (run dueInThirdTable stretchAfterGap).pairs [.warning, .permanent],
      (run dueInThirdTable stretchAfterGap).failure parked pair = none := by
    have hpairs : (run dueInThirdTable stretchAfterGap).pairs [.warning, .permanent] =
        [(.canError, .permanent), (.canError, .permanent)] := by decide +kernel
    rw [hpairs]
    intro pair hpair
    rw [List.mem_pair, or_self] at hpair
    subst hpair
    rfl
  have hresolve := EventSet.resolve_eq_ok_iff.mpr ⟨hbuilds, rfl⟩
  obtain ⟨hcount, _, _, hstretch⟩ := tag_count_follows_debounce hslot honce hresolve
  refine ⟨hslot, honce, _, hresolve, ?_, ?_⟩
  · rw [show "canError/permanent" = Alert.origin .canError .permanent by decide, hcount _ rfl]
    decide +kernel
  · rw [show "canError/permanent" = Alert.origin .canError .permanent by decide]
    refine (hstretch 0.03 [true, false] 2 ?_ (by decide +kernel) (by decide) (by decide +kernel)).mpr ?_
    · intro context age alert hbuild
      rw [← Except.ok.inj hbuild]
      rfl
    · decide +kernel

end DriverAlerts
