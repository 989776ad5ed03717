import DriverAlerts.Proofs.EventSet.Repetition
import DriverAlerts.Proofs.Resolution.Order
import DriverAlerts.Proofs.Selection
/-!
# Repeated assertions resolve to nothing new

A repeated entry meets the same pairs again, after the first entry of its event has met them. So no
failure is first because of it, and what it surfaces stands behind alerts that are the same. The first
failure and the chosen alerts are therefore those of the first entries.
-/

namespace DriverAlerts

/-! ### Choices among what first occurrences lead to -/

theorem subset_flatMap_of_mem {α β : Type} (f : α → List β) {items : List α} {item : α}
    (h : item ∈ items) : f item ⊆ items.flatMap f :=
  fun _ hmem => List.mem_flatMap.mpr ⟨item, h, hmem⟩

section FirstOccurrences

variable {α β : Type} [BEq α] [LawfulBEq α] {items items' : List α} (f : α → List β)

theorem mem_flatMap_of_eraseDups_eq (h : items.eraseDups = items'.eraseDups) (result : β) :
    result ∈ items.flatMap f ↔ result ∈ items'.flatMap f := by
  rw [List.mem_flatMap, List.mem_flatMap]
  exact exists_congr fun item => and_congr_left fun _ => mem_iff_of_eraseDups_eq h

theorem head?_flatMap_of_eraseDups_eq (h : items.eraseDups = items'.eraseDups) :
    (items.flatMap f).head? = (items'.flatMap f).head? := by
  apply eq_of_eraseDups_eq (f := fun items => (items.flatMap f).head?) _ _ h
  · intro items items' item heq
    simp only [List.flatMap_append, List.head?_append, heq]
  · intro items item hitem
    have hsubset := subset_flatMap_of_mem f hitem
    rw [List.flatMap_append, List.flatMap_singleton, List.head?_append]
    cases hresults : items.flatMap f with
    | nil =>
        rw [hresults, List.subset_nil] at hsubset
        rw [hsubset]
        rfl
    | cons result results => rfl

namespace Selection

variable (alert : β → Alert)

theorem highest_flatMap_of_eraseDups_eq (h : items.eraseDups = items'.eraseDups) :
    highest alert (items.flatMap f) = highest alert (items'.flatMap f) := by
  apply eq_of_eraseDups_eq (f := fun items => highest alert (items.flatMap f)) _ _ h
  · intro items items' item heq
    simp only [List.flatMap_append, highest_append, heq]
  · intro items item hitem
    rw [List.flatMap_append, List.flatMap_singleton]
    exact highest_append_of_subset (subset_flatMap_of_mem f hitem)

theorem perCategory_flatMap_of_eraseDups_eq (h : items.eraseDups = items'.eraseDups) :
    perCategory alert (items.flatMap f) = perCategory alert (items'.flatMap f) := by
  have hcategory : ∀ category, highest alert (ofCategory alert category (items.flatMap f)) =
      highest alert (ofCategory alert category (items'.flatMap f)) := by
    intro category
    rw [ofCategory, ofCategory, List.filter_flatMap, List.filter_flatMap]
    exact highest_flatMap_of_eraseDups_eq _ alert h
  simp only [perCategory_eq, hcategory]

end Selection

end FirstOccurrences

namespace EventSet

/-- What is read off the sets, but for how many entries they have, is the same. -/
structure SameView (left right : EventSet) : Prop where
  hasCategory : ∀ category, left.hasCategory category = right.hasCategory category
  contains : ∀ event, left.contains event = right.contains event
  isEmpty : left.isEmpty = right.isEmpty
  persistence : ∀ event, left.persistence event = right.persistence event
  resolve : ∀ categories context,
    (∃ cause, (left.resolve categories context).value = .error cause ∧
      (right.resolve categories context).value = .error cause) ∨
    ∃ alerts alerts', (left.resolve categories context).value = .ok alerts ∧
      (right.resolve categories context).value = .ok alerts' ∧
      Selection.highest id alerts = Selection.highest id alerts' ∧
      Selection.perCategory id alerts = Selection.perCategory id alerts' ∧
      ∀ alert, alert ∈ alerts ↔ alert ∈ alerts'

theorem Equivalent.sameView {left right : EventSet} (h : left.Equivalent right) :
    left.SameView right := by
  constructor
  · intro category
    rw [hasCategory, hasCategory, h.table, Bool.eq_iff_iff, List.any_eq_true, List.any_eq_true]
    exact exists_congr fun event => and_congr_left fun _ => mem_iff_of_eraseDups_eq h.active
  · exact h.contains_eq
  · rw [isEmpty, isEmpty, Bool.eq_iff_iff, List.isEmpty_iff, List.isEmpty_iff,
      List.eq_nil_iff_forall_not_mem, List.eq_nil_iff_forall_not_mem]
    exact forall_congr' fun event => not_congr (mem_iff_of_eraseDups_eq h.active)
  · exact h.persistence
  · intro categories context
    rw [value_resolve, value_resolve, failure_congr h.table h.persistence,
      surfaced_congr h.table h.persistence]
    -- Failures and alerts are both read along the active entries.
    simp only [filterMap_pairs, h.table]
    rw [head?_flatMap_of_eraseDups_eq _ h.active]
    split
    · next cause _ => exact .inl ⟨cause, rfl, rfl⟩
    · exact .inr ⟨_, _, rfl, rfl, Selection.highest_flatMap_of_eraseDups_eq _ id h.active,
        Selection.perCategory_flatMap_of_eraseDups_eq _ id h.active,
        mem_flatMap_of_eraseDups_eq _ h.active⟩

end EventSet

/-- **Repeated assertions are harmless for ever.** Two event sets over one table differ in repeated
entries alone. Whatever is done to both, they still do, and also when one of them makes an assertion
again that it has made before. So nothing but the number of entries ever tells them apart. They have the
same categories, events and counts, and resolve with the same error or else to the same alerts up to
repetition, of which the same are chosen, among all and within each category. -/
theorem repeated_assertions_are_harmless (table : Table) {commands commands' : List Command}
    (h : (run table commands).Equivalent (run table commands')) :
    (run table commands).SameView (run table commands') ∧
      (∀ command : Command,
        (command.apply (run table commands)).Equivalent (command.apply (run table commands'))) ∧
      (∀ event sticky, (run table commands).Asserts event sticky →
        ((run table commands).add event sticky).value.Equivalent (run table commands')) ∧
      (∀ event sticky, (run table commands').Asserts event sticky →
        (run table commands).Equivalent ((run table commands').add event sticky).value) ∧
      ∀ later later', Repeating table commands commands' later later' →
        (run table later).Equivalent (run table later') ∧
        (run table later).SameView (run table later') := by
  refine ⟨h.sameView, equivalent_apply h, fun event sticky hasserts => ?_,
    fun event sticky hasserts => ?_, fun later later' hlater => ?_⟩
  · exact (EventSet.equivalent_add hasserts).trans h
  · exact h.trans (EventSet.equivalent_add hasserts).symm
  · have hequivalent := equivalent_run_of_repeating h hlater
    exact ⟨hequivalent, hequivalent.sameView⟩

/-- Something hot and a bus error in two cycles. -/
def reportedOnce : List Command :=
  [.add .overheat true, .add .canError false, .reset, .add .canError false]

/-- The same two, reported more than once in both cycles. -/
def reportedTwice : List Command :=
  [.add .overheat true, .add .canError false, .add .overheat true, .add .canError false, .reset,
    .add .canError false, .add .overheat true, .add .canError false]

theorem choice_of_reportedTwice :
    (run rivals reportedOnce).Equivalent (run rivals reportedTwice) ∧
      (run rivals reportedOnce).size = 2 ∧ (run rivals reportedTwice).size = 5 ∧
      (∃ cause, ((run rivals reportedOnce).resolve [.permanent, .warning] parked).value =
          .error cause ∧
        ((run rivals reportedTwice).resolve [.permanent, .warning] parked).value = .error cause) ∧
      ∃ alerts alerts', ((run rivals reportedOnce).resolve [.permanent] parked).value = .ok alerts ∧
        ((run rivals reportedTwice).resolve [.permanent] parked).value = .ok alerts' ∧
        alerts.length = 2 ∧ alerts'.length = 5 ∧
        Selection.highest id alerts = Selection.highest id alerts' ∧
        Selection.perCategory id alerts = Selection.perCategory id alerts' := by
  have hpersistence : Event.all.all fun event =>
      (run rivals reportedOnce).persistence event = (run rivals reportedTwice).persistence event := by
    decide
  have hequivalent : (run rivals reportedOnce).Equivalent (run rivals reportedTwice) := by
    refine ⟨rfl, fun event => ?_, rfl, by decide, by decide⟩
    exact of_decide_eq_true (List.all_eq_true.mp hpersistence event event.mem_all)
  have hresolve := (repeated_assertions_are_harmless rivals hequivalent).1.resolve
  refine ⟨hequivalent, by decide, by decide, ?_, ?_⟩
  · obtain hfails | ⟨alerts, _, hok, -⟩ := hresolve [.permanent, .warning] parked
    · exact hfails
    · have hnone : ((run rivals reportedOnce).resolve [.permanent, .warning]
          parked).value.toOption.isSome = false := by decide
      rw [hok] at hnone
      exact nomatch hnone
  · have hlengths : [reportedOnce, reportedTwice].map (fun commands =>
        ((run rivals commands).resolve [.permanent] parked).value.toOption.map List.length) =
          [some 2, some 5] := by decide
    obtain ⟨_, herror, -⟩ | ⟨alerts, alerts', hok, hok', hhighest, hcategories, -⟩ :=
      hresolve [.permanent] parked
    · rw [List.map_cons, herror] at hlengths
      exact nomatch hlengths
    · simp only [List.map_cons, List.map_nil, hok, hok', Except.toOption, Option.map_some,
        List.cons.injEq, Option.some.injEq] at hlengths
      exact ⟨alerts, alerts', hok, hok', hlengths.1, hlengths.2.1, hhighest, hcategories⟩

end DriverAlerts
