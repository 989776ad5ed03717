import DriverAlerts.Proofs.EventSet.Order
import DriverAlerts.Proofs.Resolution.Debounce
import DriverAlerts.Proofs.Selection
import Mathlib.Data.List.Perm.Basic
/-!
# Monitors report in any order

Sets that differ in order alone meet the same pairs, and what a pair comes to depends on the table and
on the counts. So a pair fails in both or in neither, and both resolutions resolve the same alerts. The
order decides which failure is the first one, and which of several equally urgent alerts is chosen.
-/

namespace DriverAlerts

open History

namespace EventSet

namespace Reordered

variable {left right : EventSet} (h : left.Reordered right)
include h

theorem hasCategory_eq (category : Category) :
    left.hasCategory category = right.hasCategory category := by
  rw [hasCategory, hasCategory, h.table]
  exact h.active.any_eq

theorem pairs_perm (categories : List Category) :
    (left.pairs categories).Perm (right.pairs categories) := by
  rw [pairs, pairs, h.table]
  exact (h.active.product_right categories).filter _

theorem resolve_perm (categories : List Category) (context : Context) :
    (∃ cause cause', (left.resolve categories context).value = .error cause ∧
        (right.resolve categories context).value = .error cause') ∨
      ∃ alerts alerts', (left.resolve categories context).value = .ok alerts ∧
        (right.resolve categories context).value = .ok alerts' ∧ alerts.Perm alerts' := by
  have hpairs := h.pairs_perm categories
  have hfailures := hpairs.filterMap (right.failure context)
  have hsurfaced := hpairs.filterMap (right.surfaced context)
  rw [value_resolve, value_resolve, failure_congr h.table h.persistence,
    surfaced_congr h.table h.persistence]
  -- The first failures may differ, but there is one on both sides or on neither.
  generalize (left.pairs categories).filterMap (right.failure context) = causes at hfailures ⊢
  generalize (right.pairs categories).filterMap (right.failure context) = causes' at hfailures ⊢
  cases causes with
  | nil =>
      rw [List.nil_perm] at hfailures
      subst hfailures
      exact .inr ⟨_, _, rfl, rfl, hsurfaced⟩
  | cons cause causes =>
      cases causes' with
      | nil => exact absurd hfailures List.not_perm_cons_nil
      | cons cause' causes' => exact .inl ⟨cause, cause', rfl, rfl⟩

end Reordered

end EventSet

/-- **Monitors may report in any order.** Two runs complete the same number of cycles and in each of them
make the same additions, in whatever order. Then no count and no question about categories tells them
apart, and their active events differ in order alone. A resolution fails after both or after neither.
If it does not fail, the alerts differ in order alone, and the chosen ones, among all and within each
category, are equally urgent. -/
theorem monitors_may_report_in_any_order (table : Table) {commands commands' : List Command}
    (hresets : resets commands = resets commands')
    (hcycles : ∀ cycle, (additionsIn commands cycle).Perm (additionsIn commands' cycle)) :
    (∀ event, (run table commands).persistence event = (run table commands').persistence event) ∧
      (run table commands).cycle = (run table commands').cycle ∧
      (run table commands).active.Perm (run table commands').active ∧
      (∀ category,
        (run table commands).hasCategory category = (run table commands').hasCategory category) ∧
      ∀ categories context,
        (∃ cause cause',
          ((run table commands).resolve categories context).value = .error cause ∧
          ((run table commands').resolve categories context).value = .error cause') ∨
        ∃ alerts alerts',
          ((run table commands).resolve categories context).value = .ok alerts ∧
          ((run table commands').resolve categories context).value = .ok alerts' ∧
          alerts.Perm alerts' ∧
          (Selection.highest id alerts).map Alert.priority =
            (Selection.highest id alerts').map Alert.priority ∧
          (Selection.perCategory id alerts).map (fun entry => (entry.1, entry.2.priority)) =
            (Selection.perCategory id alerts').map fun entry => (entry.1, entry.2.priority) := by
  have hreordered := reordered_run table hresets hcycles
  refine ⟨hreordered.persistence, hreordered.cycle, hreordered.active, hreordered.hasCategory_eq,
    fun categories context => ?_⟩
  obtain hfails | ⟨alerts, alerts', hok, hok', hperm⟩ := hreordered.resolve_perm categories context
  · exact .inl hfails
  · exact .inr ⟨alerts, alerts', hok, hok', hperm, Selection.priority_highest_of_perm id hperm,
      Selection.priority_perCategory_of_perm id hperm⟩

/-- A banner for an event, and a warning that needs the calibration progress. -/
def bannerAndWarning (text1 : String) : Row :=
  .ofSlots [(.permanent, .fixed (Presets.normalPermanent text1 "")),
    (.warning, .dynamic fun _ _ => .error ⟨"calibration_percent"⟩)]

def rivals : Table :=
  .ofRows fun event =>
    if event = .canError then some (bannerAndWarning "CAN Error")
    else if event = .overheat then some (bannerAndWarning "Overheated")
    else none

def overheatFirst : List Command :=
  [.add .overheat true, .add .canError true, .reset, .add .overheat false, .add .canError false]

def canErrorFirst : List Command :=
  [.add .canError true, .add .overheat true, .reset, .add .canError false, .add .overheat false]

/-- Both monitors are heard in either order, and each order prefers its own first event. -/
theorem choice_of_rivals :
    resets overheatFirst = resets canErrorFirst ∧
      (∀ cycle, (additionsIn overheatFirst cycle).Perm (additionsIn canErrorFirst cycle)) ∧
      (∃ cause cause',
        ((run rivals overheatFirst).resolve [.permanent, .warning] parked).value = .error cause ∧
        ((run rivals canErrorFirst).resolve [.permanent, .warning] parked).value = .error cause') ∧
      ∃ alerts alerts',
        ((run rivals overheatFirst).resolve [.permanent] parked).value = .ok alerts ∧
        ((run rivals canErrorFirst).resolve [.permanent] parked).value = .ok alerts' ∧
        alerts.Perm alerts' ∧
        (Selection.highest id alerts).map Alert.tag = some "overheat/permanent" ∧
        (Selection.highest id alerts').map Alert.tag = some "canError/permanent" ∧
        (Selection.highest id alerts).map Alert.priority =
          (Selection.highest id alerts').map Alert.priority := by
  have hresets : resets overheatFirst = resets canErrorFirst := rfl
  have hcycles : ∀ cycle,
      (additionsIn overheatFirst cycle).Perm (additionsIn canErrorFirst cycle) := by
    intro cycle
    match cycle with
    | 0 => decide
    | 1 => decide
    | _ + 2 => exact .nil
  obtain ⟨-, -, -, -, hresolve⟩ := monitors_may_report_in_any_order rivals hresets hcycles
  refine ⟨hresets, hcycles, ?_, ?_⟩
  · obtain hfails | ⟨alerts, _, hok, -⟩ := hresolve [.permanent, .warning] parked
    · exact hfails
    · have hnone : ((run rivals overheatFirst).resolve [.permanent, .warning]
          parked).value.toOption.isSome = false := by decide
      rw [hok] at hnone
      exact nomatch hnone
  · obtain ⟨_, _, herror, -⟩ | ⟨alerts, alerts', hok, hok', hperm, hpriority, -⟩ :=
      hresolve [.permanent] parked
    · have hsome : ((run rivals overheatFirst).resolve [.permanent]
          parked).value.toOption.isSome := by decide
      rw [herror] at hsome
      exact nomatch hsome
    · have hchosen : (((run rivals overheatFirst).resolve [.permanent] parked).value.toOption.bind
          (Selection.highest id)).map Alert.tag = some "overheat/permanent" := by decide
      have hchosen' : (((run rivals canErrorFirst).resolve [.permanent] parked).value.toOption.bind
          (Selection.highest id)).map Alert.tag = some "canError/permanent" := by decide
      rw [hok] at hchosen
      rw [hok'] at hchosen'
      exact ⟨alerts, alerts', hok, hok', hperm, hchosen, hchosen', hpriority⟩

end DriverAlerts
