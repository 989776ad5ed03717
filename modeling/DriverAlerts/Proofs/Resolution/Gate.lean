import DriverAlerts.Proofs.Cycles.Saturation
import DriverAlerts.Proofs.Resolution.Order
import DriverAlerts.Proofs.Snapshot.Receiver
/-!
# The question about a category is the gate of its resolution

Whether an event set has a category is asked in three places: of the set, before its alerts are resolved,
of the resolution, which may come to nothing, and of the records, which carry the answers to other
processes. All three walk through the active events and ask the table, so a category that the set does
not have makes no request, and its flag is in no record. The other way round there is a request for each
category that the set has, and unless the request is kept back for the activation delay, it shows.
-/

namespace DriverAlerts

/-- Every alert that a slot can give is due in the first cycle of its event. -/
def Table.IsPrompt (table : Table) : Prop :=
  ∀ event category slot, table.slot? event category = some slot →
    ∀ context age alert, slot.build context age = .ok alert →
      Cycles.required alert.activationDelay ≤ 1

namespace EventSet

/-! ### Categories that the set does not have -/

theorem slot?_eq_none_of_hasCategory_eq_false {set : EventSet} {category : Category}
    (hnone : set.hasCategory category = false) {event : Event} (hevent : event ∈ set.active) :
    set.table.slot? event category = none := by
  rw [hasCategory, List.any_eq_false] at hnone
  have hcategory := hnone event hevent
  rwa [Table.hasCategory, Option.not_isSome_iff_eq_none] at hcategory

/-- Only the categories that the set has make requests. -/
theorem requests_filter_hasCategory (set : EventSet) (categories : List Category) :
    set.requests (categories.filter set.hasCategory) = set.requests categories := by
  rw [requests, requests]
  apply List.flatMap_congr
  intro event hevent
  rw [requestsOf, requestsOf, List.filterMap_filter]
  apply List.filterMap_congr
  intro category _
  cases hcategory : set.hasCategory category with
  | true => rw [if_pos rfl]
  | false => rw [slot?_eq_none_of_hasCategory_eq_false hcategory hevent, Option.map_none, ite_self]

theorem resolve_filter_hasCategory (set : EventSet) (categories : List Category)
    (context : Context) :
    set.resolve (categories.filter set.hasCategory) context = set.resolve categories context := by
  rw [resolve, requests_filter_hasCategory, resolve]

theorem value_resolve_of_hasCategory_eq_false {set : EventSet} {category : Category}
    (hnone : set.hasCategory category = false) (context : Context) :
    (set.resolve [category] context).value = .ok [] := by
  have hrequests : set.requests ([] : List Category) = [] := by
    rw [requests, List.flatMap_eq_nil_iff]
    exact fun _ _ => rfl
  rw [← resolve_filter_hasCategory, List.filter_singleton, hnone, cond_false, resolve, hrequests]
  rfl

/-! ### Categories that the set has -/

theorem exists_pair_of_hasCategory {set : EventSet} {category : Category}
    (hcategory : set.hasCategory category) :
    ∃ event, (event, category) ∈ set.pairs [category] := by
  obtain ⟨event, hevent, hslot⟩ := List.any_eq_true.mp hcategory
  exact ⟨event, mem_pairs.mpr ⟨hevent, List.mem_singleton_self category, hslot⟩⟩

theorem exists_surfaced_of_isPrompt {set : EventSet} (hprompt : set.table.IsPrompt)
    {context : Context} {event : Event} {category : Category}
    (hslot : set.table.hasCategory event category)
    (hbuilds : set.failure context (event, category) = none) :
    ∃ alert, set.surfaced context (event, category) = some alert := by
  obtain ⟨slot, hslot⟩ := Option.isSome_iff_exists.mp hslot
  obtain ⟨alert, hbuild⟩ := exists_build_of_failure_eq_none hslot hbuilds
  have hdelay : (Cycles.required alert.activationDelay).toNat ≤ 1 :=
    UInt32.le_iff_toNat_le.mp (hprompt event category slot hslot context _ alert hbuild)
  -- The current cycle counts, so an event is never younger than one cycle.
  have hdue : Cycles.required alert.activationDelay ≤
      Cycles.saturate ((set.persistence event).toNat + 1) :=
    Cycles.le_saturate_iff.mpr (hdelay.trans (Nat.le_add_left 1 _))
  rw [surfaced_of_build hslot hbuild, if_pos hdue]
  exact ⟨_, rfl⟩

theorem hasCategory_iff_resolve {set : EventSet} (hprompt : set.table.IsPrompt)
    (category : Category) (context : Context) :
    set.hasCategory category ↔
      (∃ cause, (set.resolve [category] context).value = .error cause) ∨
        ∃ alert alerts, (set.resolve [category] context).value = .ok (alert :: alerts) := by
  constructor
  · intro hcategory
    obtain ⟨event, hpair⟩ := exists_pair_of_hasCategory hcategory
    cases hresolve : (set.resolve [category] context).value with
    | error cause => exact .inl ⟨cause, rfl⟩
    | ok alerts =>
        obtain ⟨hbuilds, rfl⟩ := resolve_eq_ok_iff.mp hresolve
        obtain ⟨alert, hsurfaced⟩ := exists_surfaced_of_isPrompt hprompt (mem_pairs.mp hpair).2.2
          (hbuilds _ hpair)
        have hmem := List.mem_filterMap.mpr ⟨_, hpair, hsurfaced⟩
        obtain ⟨first, rest, hcons⟩ := List.exists_cons_of_ne_nil (List.ne_nil_of_mem hmem)
        exact .inr ⟨first, rest, congrArg Except.ok hcons⟩
  · -- This direction needs no prompt table: without the category there is nothing to resolve.
    intro hresolve
    by_contra hcategory
    rw [value_resolve_of_hasCategory_eq_false (Bool.eq_false_iff.mpr hcategory)] at hresolve
    obtain ⟨cause, herror⟩ | ⟨alert, alerts, hok⟩ := hresolve
    · exact nomatch herror
    · exact nomatch hok

end EventSet

/-! ### Flags of records -/

namespace CategoryFlags

theorem get_foldl_set (answer : Category → Bool) (categories : List Category)
    (flags : CategoryFlags) (category : Category) :
    (categories.foldl (fun flags c => flags.set c (answer c)) flags).get category =
      if category ∈ categories then answer category else flags.get category := by
  induction categories using List.reverseRecOn with
  | nil => rw [List.foldl_nil, if_neg List.not_mem_nil]
  | append_singleton categories last ih =>
      rw [List.foldl_append, List.foldl_cons, List.foldl_nil, set]
      by_cases hlast : category = last
      · subst hlast
        simp only [if_pos, List.mem_append_right categories List.mem_cons_self]
      · have hmem : category ∈ categories ++ [last] ↔ category ∈ categories := by
          rw [List.mem_append, List.mem_singleton, or_iff_left hlast]
        simp only [if_neg hlast, ih, hmem]

/-- The flags of an event are those that are written one category after the other. -/
theorem ofEvent_eq_foldl_set (table : Table) (event : Event) :
    ofEvent table event =
      Category.all.foldl (fun flags category => flags.set category (table.hasCategory event category))
        none := by
  have hget : ∀ flags : CategoryFlags, flags = ⟨flags.get⟩ := fun _ => rfl
  rw [hget (Category.all.foldl _ _), ofEvent]
  congr 1
  funext category
  rw [get_foldl_set, if_pos category.mem_all]

/-- What is flagged for an event is its row, and nothing without a row. -/
theorem categories_ofEvent (table : Table) (event : Event) :
    (ofEvent table event).categories = (table.row? event).elim [] Row.categories := by
  rw [categories, ofEvent]
  simp only [funext (table.hasCategory_eq event)]
  cases table.row? event with
  | none => exact List.filter_eq_nil_iff.mpr fun _ _ => Bool.false_ne_true
  | some row => rfl

end CategoryFlags

theorem EventRecord.event_ofEvent (table : Table) (event : Event) :
    (ofEvent table event).event = .ok event :=
  event_eq_ok_iff.mpr (Named.ofName?_name event)

/-- **The question about a category is an exact gate.** A resolution is not changed, in its result or
its notices, when the categories that the set does not have are left out, and such a category alone
resolves to nothing. If the slots give only alerts that are due in the first cycle, the set has a
category exactly when resolving it alone fails or shows something. The set has a category exactly when
a record flags it, and the records are those of the active events in turn, each with the flags that are
written for its event, which list the categories of its row in their order. -/
theorem category_question_is_exact_gate (table : Table) (commands : List Command) :
    (∀ categories context,
      (run table commands).resolve (categories.filter (run table commands).hasCategory) context =
        (run table commands).resolve categories context) ∧
      (∀ category context, (run table commands).hasCategory category = false →
        ((run table commands).resolve [category] context).value = .ok []) ∧
      (table.IsPrompt → ∀ category context, (run table commands).hasCategory category ↔
        (∃ cause, ((run table commands).resolve [category] context).value = .error cause) ∨
          ∃ alert alerts,
            ((run table commands).resolve [category] context).value = .ok (alert :: alerts)) ∧
      (∀ category, (run table commands).hasCategory category ↔
        ∃ record ∈ (run table commands).toRecords, record.flags.get category) ∧
      List.Forall₂
        (fun event record => record.event = .ok event ∧
          record.flags = Category.all.foldl
            (fun flags category => flags.set category (table.hasCategory event category)) .none ∧
          record.flags.categories = (table.row? event).elim [] Row.categories)
        (run table commands).active (run table commands).toRecords := by
  refine ⟨(run table commands).resolve_filter_hasCategory, fun category context hnone =>
    EventSet.value_resolve_of_hasCategory_eq_false hnone context, fun hprompt => ?_,
    fun category => ?_, ?_⟩
  · rw [← table_run table commands] at hprompt
    exact EventSet.hasCategory_iff_resolve hprompt
  · rw [EventSet.hasCategory_eq_any_toRecords, List.any_eq_true]
  · rw [EventSet.toRecords, List.forall₂_map_right_iff, List.forall₂_same, table_run]
    exact fun event _ => ⟨EventRecord.event_ofEvent table event,
      CategoryFlags.ofEvent_eq_foldl_set table event, CategoryFlags.categories_ofEvent table event⟩

/-- The banner is due at once, and the warning is never built. -/
theorem isPrompt_rivals : rivals.IsPrompt := by
  have hrow : ∀ {text category slot}, (bannerAndWarning text).slot? category = some slot →
      ∀ context age alert, slot.build context age = .ok alert →
        Cycles.required alert.activationDelay ≤ 1 := by
    intro text category slot hslot context age alert hbuild
    obtain ⟨before, after, hsplit, -⟩ := Row.slot?_ofSlots_eq_some_iff.mp hslot
    have hmem : (category, slot) ∈ before ++ (category, slot) :: after :=
      List.mem_append_right before List.mem_cons_self
    rw [← hsplit, List.mem_cons, List.mem_singleton] at hmem
    rcases hmem with hbanner | hwarning
    · obtain ⟨-, rfl⟩ := Prod.mk.inj hbanner
      obtain rfl := Except.ok.inj hbuild
      rw [Presets.normalPermanent]
      exact Cycles.required_zero ▸ by decide
    · obtain ⟨-, rfl⟩ := Prod.mk.inj hwarning
      rw [Slot.build] at hbuild
      cases hbuild
  intro event category slot hslot
  rw [Table.slot?, rivals, Table.row?_ofRows] at hslot
  split_ifs at hslot
  · exact hrow hslot
  · exact hrow hslot
  · rw [Option.bind_none] at hslot
    cases hslot

/-- What fails passes the gate, what shows passes it, and what does neither does not. -/
theorem gate_of_rivals :
    rivals.IsPrompt ∧
      ((run rivals overheatFirst).hasCategory .warning ∧
        ∃ cause, ((run rivals overheatFirst).resolve [.warning] parked).value = .error cause) ∧
      ((run rivals overheatFirst).hasCategory .permanent ∧ ∃ alert alerts,
        ((run rivals overheatFirst).resolve [.permanent] parked).value = .ok (alert :: alerts)) ∧
      (run rivals overheatFirst).hasCategory .enable = false ∧
      (run rivals overheatFirst).resolve [.enable, .permanent] parked =
        (run rivals overheatFirst).resolve [.permanent] parked := by
  obtain ⟨hfilter, -, hgate, -, -⟩ := category_question_is_exact_gate rivals overheatFirst
  have hgate := hgate isPrompt_rivals
  have hfails : ∃ cause, ((run rivals overheatFirst).resolve [.warning] parked).value =
      .error cause := ⟨_, rfl⟩
  have hshows : ∃ alert alerts, ((run rivals overheatFirst).resolve [.permanent] parked).value =
      .ok (alert :: alerts) := ⟨_, _, rfl⟩
  have hquiet : ((run rivals overheatFirst).resolve [.enable] parked).value = .ok [] := rfl
  have hwarning := (hgate .warning parked).mpr (.inl hfails)
  have hpermanent := (hgate .permanent parked).mpr (.inr hshows)
  have henable : (run rivals overheatFirst).hasCategory .enable = false := by
    rw [← Bool.not_eq_true, hgate .enable parked, hquiet]
    rintro (⟨cause, herror⟩ | ⟨alert, alerts, hok⟩)
    · exact nomatch herror
    · exact nomatch hok
  refine ⟨isPrompt_rivals, ⟨hwarning, hfails⟩, ⟨hpermanent, hshows⟩, henable, ?_⟩
  rw [← hfilter [.enable, .permanent] parked]
  simp only [List.filter_cons, henable, hpermanent, Bool.false_eq_true, if_false, if_true,
    List.filter_nil]

end DriverAlerts
