import DriverAlerts.Proofs.Cycles.Saturation
import DriverAlerts.Proofs.Resolution.Standard
import DriverAlerts.Proofs.Snapshot.Receiver
/-!
# A rebuilt set shows no more than the original

A set that is rebuilt from records has the active events of its source and none of its counts. What
a slot gives may depend on the age of its event, but where neither its failure nor the activation
delay does, age has one effect on which pairs surface anything: an older event covers more delays.
So of two sets that differ in their counts, the younger one surfaces some of the tags of the older
one, in the same order. A finished alert is the same at every age, so of those the alerts themselves
are kept.
-/

namespace DriverAlerts

/-- How a slot fails, or how long its alert is kept back, does not depend on the age of the event.
-/
def Slot.IsSteady (slot : Slot) : Prop :=
  ∀ context age age',
    Alert.activationDelay <$> slot.build context age =
      Alert.activationDelay <$> slot.build context age'

def Table.IsSteady (table : Table) : Prop :=
  ∀ event category slot, table.slot? event category = some slot → slot.IsSteady

/-- The tag of the alert is that of a pair with a finished alert. -/
def Alert.isFinished (table : Table) (alert : Alert) : Bool :=
  Event.all.any fun event => Category.all.any fun category =>
    alert.tag = Alert.origin event category && (table.slot? event category).any Slot.isFixed

/-! ### Steady slots -/

namespace Slot

theorem exists_fixed_of_isFixed {slot : Slot} (h : slot.isFixed) : ∃ alert, slot = fixed alert := by
  cases slot with
  | fixed alert => exact ⟨alert, rfl⟩
  | dynamic make => exact absurd h Bool.false_ne_true

theorem isSteady_of_isFixed {slot : Slot} (h : slot.isFixed) : slot.IsSteady := by
  obtain ⟨alert, rfl⟩ := exists_fixed_of_isFixed h
  intro context age age'
  rfl

namespace IsSteady

variable {slot : Slot} (hsteady : slot.IsSteady) {context : Context} {age : Cycles}
include hsteady

theorem build_error {missing : MissingField} (h : slot.build context age = .error missing)
    (age' : Cycles) : slot.build context age' = .error missing := by
  have hsame := hsteady context age age'
  rw [h] at hsame
  cases hbuild : slot.build context age' with
  | error other =>
      rw [hbuild] at hsame
      exact congrArg Except.error (Except.error.inj hsame).symm
  | ok alert =>
      rw [hbuild] at hsame
      exact nomatch hsame

theorem exists_build {alert : Alert} (h : slot.build context age = .ok alert) (age' : Cycles) :
    ∃ alert', slot.build context age' = .ok alert' ∧
      alert'.activationDelay = alert.activationDelay := by
  have hsame := hsteady context age age'
  rw [h] at hsame
  cases hbuild : slot.build context age' with
  | error missing =>
      rw [hbuild] at hsame
      exact nomatch hsame
  | ok alert' =>
      rw [hbuild] at hsame
      exact ⟨alert', rfl, (Except.ok.inj hsame).symm⟩

end IsSteady

end Slot

/-- A soft disable changes with the age, and is never kept back. -/
theorem SlotPlan.isSteady_slot (plan : SlotPlan) (wording : Wording) (window : Float) :
    (plan.slot wording window).IsSteady := by
  intro context age age'
  cases plan with
  | softDisable text2 | userSoftDisable text2 =>
      trans .ok 0
      · rw [slot, Slot.build]
        split <;> rfl
      · rw [slot, Slot.build]
        split <;> rfl
  | _ => rfl

namespace Table

theorem isSteady_of_isFixed {table : Table}
    (h : ∀ event category slot, table.slot? event category = some slot → slot.isFixed) :
    table.IsSteady :=
  fun event category slot hslot => Slot.isSteady_of_isFixed (h event category slot hslot)

theorem isSteady_standard {wording : Wording} {window : Float} {table : Table}
    (htable : Standard.table wording window = .ok table) : table.IsSteady := by
  intro event category slot hslot
  obtain ⟨plan, -, rfl⟩ := (Standard.slot?_table htable).mp hslot
  exact plan.isSteady_slot wording window

end Table

/-! ### Younger sets -/

/-- Items that give a value on the left give the same one on the right. -/
theorem filterMap_sublist_filterMap {α β : Type} {f g : α → Option β} {items : List α}
    (h : ∀ item ∈ items, ∀ value, f item = some value → g item = some value) :
    (items.filterMap f).Sublist (items.filterMap g) := by
  induction items with
  | nil => exact .slnil
  | cons item items ih =>
      rw [List.forall_mem_cons] at h
      cases hleft : f item with
      | none =>
          rw [List.filterMap_cons_none hleft]
          refine (ih h.2).trans ?_
          cases hright : g item with
          | none => rw [List.filterMap_cons_none hright]
          | some value =>
              rw [List.filterMap_cons_some hright]
              exact List.sublist_cons_self value _
      | some value =>
          rw [List.filterMap_cons_some hleft, List.filterMap_cons_some (h.1 value hleft)]
          exact (ih h.2).cons_cons value

namespace EventSet

/-- The sets have the same active events, and none has been active for longer in the younger one. -/
structure Younger (young old : EventSet) : Prop where
  table : young.table = old.table
  active : young.active = old.active
  persistence : ∀ event, young.persistence event ≤ old.persistence event

/-- A set that is made of the records of another one has completed no cycle. -/
theorem younger_ofRecords (set : EventSet) :
    (ofRecords set.table set.toRecords).value.Younger set where
  table := by
    rw [value_ofRecords_of_names set.names_toRecords]
    rfl
  active := active_ofRecords_of_names set.names_toRecords set.table
  persistence event := by
    rw [value_ofRecords_of_names set.names_toRecords, persistence_extend, persistence_new]
    exact UInt32.zero_le

section Pair

variable {left right : EventSet} (htable : left.table = right.table)
  (hsteady : right.table.IsSteady) {context : Context} {pair : Event × Category}
include htable hsteady

theorem failure_of_isSteady {cause : FactoryError} (h : left.failure context pair = some cause) :
    right.failure context pair = some cause := by
  obtain ⟨missing, houtcome, rfl⟩ := failure_eq_some_iff.mp h
  obtain ⟨slot, hslot, hbuild⟩ := outcome_eq_some_iff.mp houtcome
  rw [htable] at hslot
  have hbuild' := (hsteady _ _ slot hslot).build_error hbuild
  exact failure_eq_some_iff.mpr ⟨missing, outcome_eq_some_iff.mpr ⟨slot, hslot, hbuild' _⟩, rfl⟩

/-- What surfaces in one set surfaces in the other, perhaps as another alert, if its delay is over
there. -/
theorem exists_surfaced_of_isSteady {alert : Alert} (h : left.surfaced context pair = some alert)
    (hdue : ∀ built, right.outcome context pair = some (.ok built) →
      Cycles.required built.activationDelay ≤
        Cycles.saturate ((left.persistence pair.1).toNat + 1) →
      Cycles.required built.activationDelay ≤
        Cycles.saturate ((right.persistence pair.1).toNat + 1)) :
    ∃ alert', right.surfaced context pair = some alert' ∧ alert'.tag = alert.tag ∧
      ((right.table.slot? pair.1 pair.2).any Slot.isFixed → alert' = alert) := by
  obtain ⟨built, houtcome, hcovers, rfl⟩ := surfaced_eq_some_iff.mp h
  obtain ⟨slot, hslot, hbuild⟩ := outcome_eq_some_iff.mp houtcome
  rw [htable] at hslot
  obtain ⟨built', hbuild', hdelay⟩ := (hsteady _ _ slot hslot).exists_build hbuild
    (Cycles.saturate ((right.persistence pair.1).toNat + 1))
  have houtcome' : right.outcome context pair = some (.ok built') :=
    outcome_eq_some_iff.mpr ⟨slot, hslot, hbuild'⟩
  have hcovers' := hdue built' houtcome' (by rwa [hdelay])
  refine ⟨built'.resolved pair.1 pair.2,
    surfaced_eq_some_iff.mpr ⟨built', houtcome', hcovers', rfl⟩, rfl, fun hfixed => ?_⟩
  rw [hslot, Option.any_some] at hfixed
  obtain ⟨finished, rfl⟩ := Slot.exists_fixed_of_isFixed hfixed
  rw [← Except.ok.inj hbuild, ← Except.ok.inj hbuild']

end Pair

theorem isFinished_of_surfaced {set : EventSet} {context : Context} {pair : Event × Category}
    {alert : Alert} (h : set.surfaced context pair = some alert) :
    alert.isFinished set.table = (set.table.slot? pair.1 pair.2).any Slot.isFixed := by
  obtain ⟨built, -, -, rfl⟩ := surfaced_eq_some_iff.mp h
  rw [Bool.eq_iff_iff, Alert.isFinished, List.any_eq_true]
  simp only [Alert.resolved, Bool.and_eq_true, List.any_eq_true, decide_eq_true_eq,
    Alert.origin_inj]
  constructor
  · rintro ⟨event, -, category, -, ⟨rfl, rfl⟩, hfixed⟩
    exact hfixed
  · intro hfixed
    exact ⟨pair.1, pair.1.mem_all, pair.2, pair.2.mem_all, ⟨rfl, rfl⟩, hfixed⟩

theorem tags_sublist_of_surfaced {left right : EventSet} {context : Context}
    {items : List (Event × Category)}
    (h : ∀ pair ∈ items, ∀ alert, left.surfaced context pair = some alert →
      ∃ alert', right.surfaced context pair = some alert' ∧ alert'.tag = alert.tag) :
    ((items.filterMap (left.surfaced context)).map Alert.tag).Sublist
      ((items.filterMap (right.surfaced context)).map Alert.tag) := by
  rw [List.map_filterMap, List.map_filterMap]
  apply filterMap_sublist_filterMap
  intro pair hpair tag htag
  obtain ⟨alert, hsurfaced, rfl⟩ := Option.map_eq_some_iff.mp htag
  obtain ⟨alert', hsurfaced', htag'⟩ := h pair hpair alert hsurfaced
  rw [hsurfaced', Option.map_some, htag']

/-- Everything that the slots give for some categories is due in the first cycle of its event. -/
def PromptFor (set : EventSet) (categories : List Category) (context : Context) : Prop :=
  ∀ pair ∈ set.pairs categories, ∀ alert, set.outcome context pair = some (.ok alert) →
    Cycles.required alert.activationDelay ≤ 1

theorem isFinished_of_isFixed {set : EventSet} {context : Context} {categories : List Category}
    (hfixed : ∀ event category slot, set.table.slot? event category = some slot → slot.isFixed)
    {alert : Alert} (hmem : alert ∈ (set.pairs categories).filterMap (set.surfaced context)) :
    alert.isFinished set.table := by
  obtain ⟨pair, -, hsurfaced⟩ := List.mem_filterMap.mp hmem
  obtain ⟨built, houtcome, -, -⟩ := surfaced_eq_some_iff.mp hsurfaced
  obtain ⟨slot, hslot, -⟩ := outcome_eq_some_iff.mp houtcome
  rw [isFinished_of_surfaced hsurfaced, hslot, Option.any_some]
  exact hfixed _ _ slot hslot

namespace Younger

variable {young old : EventSet} (hyounger : young.Younger old)
include hyounger

theorem pairs_eq (categories : List Category) : young.pairs categories = old.pairs categories := by
  rw [pairs, pairs, hyounger.active, hyounger.table]

theorem age_le (event : Event) :
    Cycles.saturate ((young.persistence event).toNat + 1) ≤
      Cycles.saturate ((old.persistence event).toNat + 1) := by
  have hcount := UInt32.le_iff_toNat_le.mp (hyounger.persistence event)
  rw [Cycles.le_saturate_iff, Cycles.toNat_saturate]
  omega

variable (hsteady : old.table.IsSteady) (context : Context)
include hsteady

theorem failure_eq : young.failure context = old.failure context := by
  have hsteady' : young.table.IsSteady := by rwa [hyounger.table]
  funext pair
  apply Option.ext
  intro cause
  constructor
  · exact failure_of_isSteady hyounger.table hsteady
  · exact failure_of_isSteady hyounger.table.symm hsteady'

/-- An older event covers the delays that a younger one covers. -/
theorem exists_surfaced {pair : Event × Category} {alert : Alert}
    (h : young.surfaced context pair = some alert) :
    ∃ alert', old.surfaced context pair = some alert' ∧ alert'.tag = alert.tag ∧
      ((old.table.slot? pair.1 pair.2).any Slot.isFixed → alert' = alert) :=
  exists_surfaced_of_isSteady hyounger.table hsteady h
    fun _ _ hcovers => UInt32.le_trans hcovers (hyounger.age_le pair.1)

theorem tags_sublist (items : List (Event × Category)) :
    ((items.filterMap (young.surfaced context)).map Alert.tag).Sublist
      ((items.filterMap (old.surfaced context)).map Alert.tag) := by
  apply tags_sublist_of_surfaced
  intro pair _ alert hsurfaced
  obtain ⟨alert', hsurfaced', htag, -⟩ := hyounger.exists_surfaced hsteady context hsurfaced
  exact ⟨alert', hsurfaced', htag⟩

/-- Where no delay takes more than a cycle, the younger set has caught up. -/
theorem tags_eq_of_promptFor {categories : List Category}
    (hprompt : old.PromptFor categories context) :
    ((old.pairs categories).filterMap (young.surfaced context)).map Alert.tag =
      ((old.pairs categories).filterMap (old.surfaced context)).map Alert.tag := by
  apply (hyounger.tags_sublist hsteady context _).antisymm
  have hsteady' : young.table.IsSteady := by rwa [hyounger.table]
  apply tags_sublist_of_surfaced
  intro pair hpair alert hsurfaced
  have hdue : ∀ built, young.outcome context pair = some (.ok built) →
      Cycles.required built.activationDelay ≤
        Cycles.saturate ((young.persistence pair.1).toNat + 1) := by
    intro built houtcome
    obtain ⟨slot, hslot, hbuild⟩ := outcome_eq_some_iff.mp houtcome
    rw [hyounger.table] at hslot
    obtain ⟨built', hbuild', hdelay⟩ := (hsteady _ _ slot hslot).exists_build hbuild
      (Cycles.saturate ((old.persistence pair.1).toNat + 1))
    have hshort := hprompt pair hpair built' (outcome_eq_some_iff.mpr ⟨slot, hslot, hbuild'⟩)
    rw [hdelay, UInt32.le_iff_toNat_le] at hshort
    -- The current cycle counts, so an event is never younger than one cycle.
    exact Cycles.le_saturate_iff.mpr (hshort.trans (Nat.le_add_left 1 _))
  obtain ⟨alert', hsurfaced', htag, -⟩ :=
    exists_surfaced_of_isSteady hyounger.table.symm hsteady' hsurfaced
      fun built houtcome _ => hdue built houtcome
  exact ⟨alert', hsurfaced', htag⟩

theorem finished_sublist (items : List (Event × Category)) :
    ((items.filterMap (young.surfaced context)).filter (Alert.isFinished old.table)).Sublist
      ((items.filterMap (old.surfaced context)).filter (Alert.isFinished old.table)) := by
  rw [List.filter_filterMap, List.filter_filterMap]
  apply filterMap_sublist_filterMap
  intro pair _ alert halert
  obtain ⟨hsurfaced, hfinished⟩ := Option.filter_eq_some_iff.mp halert
  obtain ⟨alert', hsurfaced', -, hsame⟩ := hyounger.exists_surfaced hsteady context hsurfaced
  rw [← hyounger.table, isFinished_of_surfaced hsurfaced, hyounger.table] at hfinished
  rw [hsurfaced] at halert
  rw [hsurfaced', hsame hfinished]
  exact halert

theorem resolve_cases (categories : List Category) :
    (∃ cause, (young.resolve categories context).value = .error cause ∧
        (old.resolve categories context).value = .error cause) ∨
      (young.resolve categories context).value =
          .ok ((old.pairs categories).filterMap (young.surfaced context)) ∧
        (old.resolve categories context).value =
          .ok ((old.pairs categories).filterMap (old.surfaced context)) := by
  rw [value_resolve, value_resolve, hyounger.pairs_eq, hyounger.failure_eq hsteady]
  cases ((old.pairs categories).filterMap (old.failure context)).head? with
  | some cause => exact .inl ⟨cause, rfl, rfl⟩
  | none => exact .inr ⟨rfl, rfl⟩

end Younger

end EventSet

open EventSet in
/-- **A younger set shows some of what an older one shows.** In a table that the age of an event
cannot make fail and in which it cannot move an activation delay, such as a table of finished alerts
or a standard one, let two sets have the same active events, none of which has been active for
longer in the first set than in the second. Then both fail and with the same cause, or the tags of
the first set are some of the tags of the second in the same order, and so are its finished alerts.
The tags are the same if no alert takes more than a cycle to be due. A set that is made of the
records of another one is younger than that one. -/
theorem younger_set_shows_no_more :
    (∀ table : Table,
        (∀ event category slot, table.slot? event category = some slot → slot.isFixed) →
          table.IsSteady) ∧
      (∀ catalog window table, Table.standardWithCatalog catalog window = .ok table →
        table.IsSteady) ∧
      (∀ young old : EventSet, old.table.IsSteady → young.Younger old → ∀ categories context,
        (∃ cause, (young.resolve categories context).value = .error cause ∧
            (old.resolve categories context).value = .error cause) ∨
          ∃ shown shown', (young.resolve categories context).value = .ok shown ∧
            (old.resolve categories context).value = .ok shown' ∧
            (shown.map Alert.tag).Sublist (shown'.map Alert.tag) ∧
            (shown.filter (Alert.isFinished old.table)).Sublist
              (shown'.filter (Alert.isFinished old.table)) ∧
            ((∀ event category slot, old.table.slot? event category = some slot → slot.isFixed) →
              shown.Sublist shown') ∧
            (old.PromptFor categories context → shown.map Alert.tag = shown'.map Alert.tag)) ∧
      ∀ set : EventSet, (ofRecords set.table set.toRecords).value.Younger set := by
  refine ⟨fun _ => Table.isSteady_of_isFixed, fun catalog window table htable => ?_,
    fun young old hsteady hyounger categories context => ?_, younger_ofRecords⟩
  · exact Table.isSteady_standard (Table.standardWithCatalog_eq_ok_iff.mp htable).2
  · obtain hfails | ⟨hyoung, hold⟩ := hyounger.resolve_cases hsteady context categories
    · exact .inl hfails
    · have hfinished := hyounger.finished_sublist hsteady context (old.pairs categories)
      refine .inr ⟨_, _, hyoung, hold, hyounger.tags_sublist hsteady context _, hfinished,
        fun hfixed => ?_, hyounger.tags_eq_of_promptFor hsteady context⟩
      have hfixed' : ∀ event category slot,
          young.table.slot? event category = some slot → slot.isFixed := by rwa [hyounger.table]
      have hshown : ∀ alert ∈ (old.pairs categories).filterMap (young.surfaced context),
          alert.isFinished old.table := by
        rw [← hyounger.pairs_eq, ← hyounger.table]
        exact fun alert => isFinished_of_isFixed hfixed'
      have hshown' : ∀ alert ∈ (old.pairs categories).filterMap (old.surfaced context),
          alert.isFinished old.table := fun alert => isFinished_of_isFixed hfixed
      rwa [List.filter_eq_self.mpr hshown, List.filter_eq_self.mpr hshown'] at hfinished

/-- One alert of the event is due in its third cycle, the other at once. -/
def lateAndPrompt : Table :=
  let alert := Presets.normalPermanent "CAN Error" ""
  .ofRows fun event =>
    if event = .canError then
      some (.ofSlots [(.permanent, .fixed (alert.withActivationDelay 0.03)),
        (.warning, .fixed alert)])
    else none

/-- The third cycle of an event that stays. -/
def thirdCycle : List Command :=
  [.add .canError true, .reset, .reset]

theorem younger_set_of_thirdCycle :
    ∃ shown shown',
      ((EventSet.ofRecords lateAndPrompt (run lateAndPrompt thirdCycle).toRecords).value.resolve
        [.permanent, .warning] (unsettled none)).value = .ok shown ∧
      ((run lateAndPrompt thirdCycle).resolve [.permanent, .warning] (unsettled none)).value =
        .ok shown' ∧
      shown.Sublist shown' ∧ shown.map Alert.tag = ["canError/warning"] ∧
      shown'.map Alert.tag = ["canError/permanent", "canError/warning"] := by
  have hslots : (Event.all.all fun event => Category.all.all fun category =>
      (lateAndPrompt.slot? event category).all Slot.isFixed) := by decide +kernel
  have hfixed : ∀ event category slot, lateAndPrompt.slot? event category = some slot →
      slot.isFixed := by
    intro event category slot hslot
    have hall := List.all_eq_true.mp (List.all_eq_true.mp hslots event event.mem_all) category
      category.mem_all
    rwa [hslot, Option.all_some] at hall
  have hyoung : ((EventSet.ofRecords lateAndPrompt
      (run lateAndPrompt thirdCycle).toRecords).value.resolve [.permanent, .warning]
        (unsettled none)).value.map (List.map Alert.tag) = .ok ["canError/warning"] := by
    decide +kernel
  have hold : ((run lateAndPrompt thirdCycle).resolve [.permanent, .warning]
      (unsettled none)).value.map (List.map Alert.tag) =
        .ok ["canError/permanent", "canError/warning"] := by decide +kernel
  obtain ⟨hsteady, -, hless, hrebuilt⟩ := younger_set_shows_no_more
  have hyounger := hrebuilt (run lateAndPrompt thirdCycle)
  have hrun := table_run lateAndPrompt thirdCycle
  rw [hrun] at hyounger
  rw [← hrun] at hfixed
  obtain ⟨cause, herror, -⟩ | ⟨shown, shown', hshown, hshown', -, -, hsublist, -⟩ :=
    hless _ _ (hsteady _ hfixed) hyounger [.permanent, .warning] (unsettled none)
  · rw [herror] at hyoung
    exact nomatch hyoung
  · rw [hshown] at hyoung
    rw [hshown'] at hold
    exact ⟨shown, shown', hshown, hshown', hsublist hfixed, Except.ok.inj hyoung,
      Except.ok.inj hold⟩

end DriverAlerts
