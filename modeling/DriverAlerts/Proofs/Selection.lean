import DriverAlerts.Proofs.Entries
import DriverAlerts.Proofs.Vocabulary
import DriverAlerts.Selection
import Mathlib.Data.List.Forall2
import Mathlib.Data.List.MinMax
/-!
# Which item is chosen

The pass over the items finds the first item of greatest weight, so the choice is known by two facts:
no item outweighs the chosen one, and an item that does not outweigh the choice so far leaves it
alone. Choosing within the categories is the same choice among the items of one category after the
other. What the items carry beside their alerts has no part in it, so the place of the chosen alert in
the list can be told by letting each item carry its place.
-/

namespace DriverAlerts.Selection

variable {α β : Type} (alert : α → Alert)

/-! ### The first of greatest weight -/

theorem outranks_iff {left right : Alert} :
    left.outranks right ↔ right.priority.weight < left.priority.weight := by
  rw [Alert.outranks, decide_eq_true_eq]

theorem highest_eq_argmax (items : List α) :
    highest alert items = items.argmax fun item => (alert item).priority.weight := by
  have hstep : prefer alert = List.argAux
      (fun item current => (alert current).priority.weight < (alert item).priority.weight) := by
    funext best item
    cases best with
    | none => rfl
    | some current => simp only [prefer, List.argAux, outranks_iff]
  rw [highest, hstep, List.argmax]

theorem prefer_none (item : α) : prefer alert none item = some item := rfl

theorem prefer_some (current item : α) : prefer alert (some current) item =
    if (alert item).outranks (alert current) then some item else some current := rfl

theorem highest_concat (items : List α) (item : α) :
    highest alert (items ++ [item]) = prefer alert (highest alert items) item := by
  rw [highest, List.foldl_append, List.foldl_cons, List.foldl_nil, ← highest]

theorem highest_append (items more : List α) :
    highest alert (items ++ more) = more.foldl (prefer alert) (highest alert items) := by
  rw [highest, List.foldl_append, ← highest]

theorem highest_eq_none_iff {items : List α} : highest alert items = none ↔ items = [] := by
  rw [highest_eq_argmax, List.argmax_eq_none]

variable {alert}

theorem mem_of_highest {items : List α} {winner : α} (h : highest alert items = some winner) :
    winner ∈ items := by
  rw [highest_eq_argmax] at h
  exact List.argmax_mem h

theorem weight_le_of_highest {items : List α} {winner item : α}
    (h : highest alert items = some winner) (hitem : item ∈ items) :
    (alert item).priority.weight ≤ (alert winner).priority.weight := by
  rw [highest_eq_argmax] at h
  exact List.le_of_mem_argmax (f := fun item => (alert item).priority.weight) hitem h

/-- Items that are there already change nothing when they come again. -/
theorem highest_append_of_subset {items more : List α} (hmore : more ⊆ items) :
    highest alert (items ++ more) = highest alert items := by
  induction more using List.reverseRecOn with
  | nil => rw [List.append_nil]
  | append_singleton more item ih =>
      have hsubset : more ⊆ items := fun _ h => hmore (List.mem_append_left [item] h)
      have hitem : item ∈ items := hmore (List.mem_append_right more List.mem_cons_self)
      rw [← List.append_assoc, highest_concat, ih hsubset]
      cases hbest : highest alert items with
      | none =>
          rw [(highest_eq_none_iff alert).mp hbest] at hitem
          exact absurd hitem List.not_mem_nil
      | some winner =>
          have hweight := weight_le_of_highest hbest hitem
          rw [prefer, if_neg]
          rwa [outranks_iff, Nat.not_lt]

/-- Lists that lead to the same items, some of them more than once, lead to the same choice. -/
theorem highest_flatMap_congr {γ : Type} {f g : γ → List α}
    (h : ∀ part, ∃ more, f part = g part ++ more ∧ more ⊆ g part) (parts : List γ) :
    highest alert (parts.flatMap f) = highest alert (parts.flatMap g) := by
  induction parts using List.reverseRecOn with
  | nil => rfl
  | append_singleton parts part ih =>
      obtain ⟨more, hpart, hmore⟩ := h part
      have hsubset : more ⊆ parts.flatMap g ++ g part :=
        List.subset_append_of_subset_right _ hmore
      rw [List.flatMap_append, List.flatMap_singleton, hpart, highest_append, ih, ← highest_append,
        ← List.append_assoc, highest_append_of_subset hsubset, List.flatMap_append,
        List.flatMap_singleton]

theorem priority_weight_injective : Function.Injective Priority.weight := by
  intro left right h
  cases left <;> cases right <;> revert h <;> decide

/-- The order of the items decides which of them is chosen, and not how urgent the chosen one is. -/
theorem priority_highest_of_perm (alert : α → Alert) {items items' : List α}
    (h : items.Perm items') :
    (highest alert items).map (fun item => (alert item).priority) =
      (highest alert items').map fun item => (alert item).priority := by
  cases hbest : highest alert items with
  | none =>
      rw [(highest_eq_none_iff alert).mp hbest, List.nil_perm] at h
      rw [h]
      rfl
  | some winner =>
      cases hbest' : highest alert items' with
      | none =>
          rw [(highest_eq_none_iff alert).mp hbest', List.perm_nil] at h
          rw [h] at hbest
          exact nomatch hbest
      | some winner' =>
          have hle := weight_le_of_highest hbest' (h.mem_iff.mp (mem_of_highest hbest))
          have hge := weight_le_of_highest hbest (h.mem_iff.mpr (mem_of_highest hbest'))
          rw [Option.map_some, Option.map_some,
            priority_weight_injective (Nat.le_antisymm hle hge)]

/-! ### The choice within each category -/

def ofCategory (alert : α → Alert) (category : Category) (items : List α) : List α :=
  items.filter fun item => (alert item).category = some category

theorem lookup_preferIn (winners : List (Category × α)) (category : Category) (item : α)
    (sought : Category) :
    (preferIn alert winners category item).lookup sought =
      if sought = category then prefer alert (winners.lookup sought) item
      else winners.lookup sought := by
  induction winners with
  | nil =>
      rw [preferIn, List.lookup_cons, List.lookup_nil, prefer]
      by_cases hsought : sought = category
      · rw [if_pos hsought, hsought, beq_self_eq_true]
      · rw [if_neg hsought, beq_false_of_ne hsought]
  | cons entry winners ih =>
      obtain ⟨first, current⟩ := entry
      rw [preferIn]
      by_cases hfirst : first = category
      · subst hfirst
        rw [if_pos rfl, List.lookup_cons, List.lookup_cons]
        by_cases hsought : sought = first
        · subst hsought
          rw [beq_self_eq_true, if_pos rfl]
          simp only [prefer]
          split <;> rfl
        · rw [beq_false_of_ne hsought, if_neg hsought]
      · rw [if_neg hfirst, List.lookup_cons, List.lookup_cons, ih]
        by_cases hsought : sought = first
        · subst hsought
          rw [beq_self_eq_true, if_neg hfirst, if_neg hfirst]
        · rw [beq_false_of_ne hsought]

theorem lookup_winners (items : List α) (category : Category) :
    (winners alert items).lookup category = highest alert (ofCategory alert category items) := by
  induction items using List.reverseRecOn with
  | nil => rfl
  | append_singleton items item ih =>
      rw [winners, List.foldl_append, List.foldl_cons, List.foldl_nil, ← winners, ofCategory,
        List.filter_append, List.filter_singleton]
      cases hcategory : (alert item).category with
      | none =>
          rw [decide_eq_false (fun h => nomatch h), cond_false, List.append_nil]
          exact ih
      | some other =>
          dsimp only
          rw [lookup_preferIn, ih]
          by_cases hsought : category = other
          · subst hsought
            rw [if_pos rfl, decide_eq_true rfl, cond_true, highest_concat, ofCategory]
          · rw [if_neg hsought, decide_eq_false fun h => hsought (Option.some.inj h).symm,
              cond_false, List.append_nil, ofCategory]

/-- Within each category the choice is made as if there were no other items. -/
theorem perCategory_eq (items : List α) :
    perCategory alert items = Category.all.filterMap fun category =>
      (highest alert (ofCategory alert category items)).map fun item => (category, item) := by
  simp only [perCategory, lookup_winners]

/-- The entry of a category is the choice within it. -/
theorem lookup_perCategory (items : List α) (category : Category) :
    (perCategory alert items).lookup category = highest alert (ofCategory alert category items) := by
  rw [perCategory_eq]
  exact lookup_filterMap_value (fun c => highest alert (ofCategory alert c items)) category.mem_all

theorem priority_perCategory_of_perm (alert : α → Alert) {items items' : List α}
    (h : items.Perm items') :
    (perCategory alert items).map (fun entry => (entry.1, (alert entry.2).priority)) =
      (perCategory alert items').map fun entry => (entry.1, (alert entry.2).priority) := by
  rw [perCategory_eq, perCategory_eq, List.map_filterMap, List.map_filterMap]
  congr 1
  funext category
  have hcategory := priority_highest_of_perm alert
    (h.filter fun item => decide ((alert item).category = some category))
  have hentry := congrArg (Option.map (Prod.mk category)) hcategory
  rwa [Option.map_map, Option.map_map] at hentry ⊢

/-! ### Items with equal priorities in equal places -/

section Related

variable (alert : α → Alert) (alert' : β → Alert) {R : α → β → Prop}

theorem highest_rel (hpriority : ∀ item item', R item item' →
      (alert item).priority = (alert' item').priority)
    {items : List α} {items' : List β} (h : List.Forall₂ R items items') :
    Option.Rel R (highest alert items) (highest alert' items') := by
  refine List.rel_foldl ?_ Option.Rel.none h
  intro best best' hbest item item' hitem
  cases hbest with
  | none => exact .some hitem
  | @some current current' hcurrent =>
      have houtranks : (alert item).outranks (alert current) =
          (alert' item').outranks (alert' current') := by
        rw [Alert.outranks, Alert.outranks, hpriority _ _ hitem, hpriority _ _ hcurrent]
      rw [prefer, prefer, houtranks]
      by_cases hnew : (alert' item').outranks (alert' current')
      · rw [if_pos hnew, if_pos hnew]
        exact .some hitem
      · rw [if_neg hnew, if_neg hnew]
        exact .some hcurrent

theorem perCategory_rel (hpriority : ∀ item item', R item item' →
      (alert item).priority = (alert' item').priority)
    (hcategory : ∀ item item', R item item' → (alert item).category = (alert' item').category)
    {items : List α} {items' : List β} (h : List.Forall₂ R items items') :
    List.Forall₂ (fun entry entry' => entry.1 = entry'.1 ∧ R entry.2 entry'.2)
      (perCategory alert items) (perCategory alert' items') := by
  rw [perCategory_eq, perCategory_eq]
  refine List.rel_filterMap (R := Eq) ?_ (List.forall₂_eq_eq_eq ▸ rfl)
  rintro category _ rfl
  have hitems : List.Forall₂ R (ofCategory alert category items)
      (ofCategory alert' category items') := by
    refine List.rel_filter ?_ h
    intro item item' hitem
    simp only [hcategory item item' hitem]
  have hwinner := highest_rel alert alert' hpriority hitems
  dsimp only
  generalize highest alert (ofCategory alert category items) = winner at hwinner ⊢
  generalize highest alert' (ofCategory alert' category items') = winner' at hwinner ⊢
  cases hwinner with
  | none => exact .none
  | some hwinner => exact .some ⟨rfl, hwinner⟩

end Related

/-! ### The place of the chosen alert -/

/-- The place in the list of the alert that is chosen among all. -/
def highestAt (alerts : List Alert) : Option Nat :=
  (highest Prod.fst alerts.zipIdx).map Prod.snd

/-- For each category the place in the list of the alert that is chosen within it. -/
def perCategoryAt (alerts : List Alert) : List (Category × Nat) :=
  (perCategory Prod.fst alerts.zipIdx).map fun entry => (entry.1, entry.2.2)

theorem forall₂_zipIdx {R : α → β → Prop} {items : List α} {items' : List β}
    (h : List.Forall₂ R items items') :
    List.Forall₂ (fun item item' => R item.1 item'.1 ∧ item.2 = item'.2) items.zipIdx
      items'.zipIdx := by
  rw [List.forall₂_iff_get] at h ⊢
  refine ⟨by simpa using h.1, fun i hi hi' => ?_⟩
  simp only [List.get_eq_getElem, List.getElem_zipIdx, and_true]
  exact h.2 i (by simpa using hi) (by simpa using hi')

theorem forall₂_zipIdx_self (items : List α) :
    List.Forall₂ (fun entry item => entry.1 = item ∧ items[entry.2]? = some item) items.zipIdx
      items := by
  rw [List.forall₂_iff_get]
  refine ⟨List.length_zipIdx, fun i hi hi' => ?_⟩
  simp

/-- The alert in the place that is chosen is the alert that is chosen. -/
theorem highest_eq_bind_highestAt (alerts : List Alert) :
    highest id alerts = (highestAt alerts).bind (alerts[·]?) := by
  have hwinner := highest_rel Prod.fst id (fun _ _ h => congrArg _ h.1)
    (forall₂_zipIdx_self alerts)
  rw [highestAt]
  generalize highest Prod.fst alerts.zipIdx = winner at hwinner ⊢
  generalize highest id alerts = winner' at hwinner ⊢
  cases hwinner with
  | none => rfl
  | some hplace => exact hplace.2.symm

theorem perCategory_eq_map_perCategoryAt (alerts : List Alert) :
    (perCategory id alerts).map (fun entry => (entry.1, some entry.2)) =
      (perCategoryAt alerts).map fun entry => (entry.1, alerts[entry.2]?) := by
  have hwinners := perCategory_rel Prod.fst id (fun _ _ h => congrArg _ h.1)
    (fun _ _ h => congrArg _ h.1) (forall₂_zipIdx_self alerts)
  rw [perCategoryAt, List.map_map]
  generalize perCategory Prod.fst alerts.zipIdx = winners at hwinners ⊢
  generalize perCategory id alerts = winners' at hwinners ⊢
  induction hwinners with
  | nil => rfl
  | cons hentry _ ih =>
      rw [List.map_cons, List.map_cons, ih, Function.comp_apply, hentry.1, hentry.2.2]

end DriverAlerts.Selection
