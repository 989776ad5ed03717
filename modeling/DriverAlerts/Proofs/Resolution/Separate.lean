import DriverAlerts.Proofs.Resolution.Order
/-!
# Categories asked for together and alone

A pair is met for its own category, and whether other categories are asked for as well decides only what
stands between the pairs of one category, and how often each of them is met. Neither matters to the choice
within the category: a pair that is met again surfaces what it has surfaced before. So for each
category the answer to many questions at once holds the answer to the question about that category alone.
-/

namespace DriverAlerts

namespace EventSet

/-- Requests can be separated by category. -/
theorem pairs_filter (set : EventSet) (categories : List Category) (keep : Category → Bool) :
    set.pairs (categories.filter keep) =
      (set.pairs categories).filter fun pair => keep pair.2 := by
  rw [pairs_eq_flatMap, pairs_eq_flatMap, List.filter_flatMap]
  congr 1
  funext event
  rw [List.filter_comm, List.filter_map, List.filter_map, List.filter_map]
  rfl

theorem pairs_append_perm (set : EventSet) (categories more : List Category) :
    (set.pairs (categories ++ more)).Perm (set.pairs categories ++ set.pairs more) := by
  simp only [pairs_eq_flatMap, List.map_append, List.filter_append]
  exact (List.flatMap_append_perm _ _ _).symm

section Surfaced

variable (set : EventSet) (context : Context)

/-- What the pairs of some categories surface. -/
def surfacedFor (categories : List Category) : List Alert :=
  (set.pairs categories).filterMap (set.surfaced context)

/-- What a pair surfaces is marked with the category of the pair. -/
theorem filter_category_surfaced (pair : Event × Category) (category : Category) :
    (set.surfaced context pair).filter (fun alert => alert.category = some category) =
      if pair.2 = category then set.surfaced context pair else none := by
  cases hsurfaced : set.surfaced context pair with
  | none => rw [Option.filter_none, ite_self]
  | some alert =>
      obtain ⟨built, -, -, rfl⟩ := surfaced_eq_some_iff.mp hsurfaced
      rw [Option.filter_some]
      simp only [Alert.resolved, Option.some.injEq, decide_eq_true_eq]

/-- The alerts of one category are those of the requests for it. -/
theorem ofCategory_surfacedFor (categories : List Category) (category : Category) :
    Selection.ofCategory id category (set.surfacedFor context categories) =
      set.surfacedFor context (List.replicate (categories.count category) category) := by
  rw [← List.filter_beq, Selection.ofCategory, surfacedFor, List.filter_filterMap, surfacedFor,
    pairs_filter, List.filterMap_filter]
  apply List.filterMap_congr
  intro pair _
  simp only [beq_iff_eq]
  exact set.filter_category_surfaced context pair category

/-- Asking again for a category changes nothing about the choice. -/
theorem highest_surfacedFor_replicate (n : Nat) (category : Category) :
    Selection.highest id (set.surfacedFor context (List.replicate (n + 1) category)) =
      Selection.highest id (set.surfacedFor context [category]) := by
  rw [surfacedFor, surfacedFor, filterMap_pairs, filterMap_pairs]
  apply Selection.highest_flatMap_congr
  intro event
  rw [List.replicate_succ, ← List.singleton_append, List.map_append, List.filter_append,
    List.filterMap_append]
  refine ⟨_, rfl, fun alert halert => ?_⟩
  obtain ⟨pair, hpair, hsurfaced⟩ := List.mem_filterMap.mp halert
  obtain ⟨hpair, hslot⟩ := List.mem_filter.mp hpair
  obtain ⟨other, hother, rfl⟩ := List.mem_map.mp hpair
  obtain rfl := List.eq_of_mem_replicate hother
  refine List.mem_filterMap.mpr ⟨_, List.mem_filter.mpr ⟨?_, hslot⟩, hsurfaced⟩
  exact List.mem_map_of_mem (List.mem_singleton_self other)

theorem highest_ofCategory_surfacedFor (categories : List Category) (category : Category) :
    Selection.highest id (Selection.ofCategory id category (set.surfacedFor context categories)) =
      if category ∈ categories then
        Selection.highest id (set.surfacedFor context [category])
      else none := by
  rw [ofCategory_surfacedFor]
  by_cases hcategory : category ∈ categories
  · obtain ⟨n, hn⟩ := Nat.exists_eq_add_one.mpr (List.count_pos_iff.mpr hcategory)
    rw [hn, highest_surfacedFor_replicate, if_pos hcategory]
  · have hnone : set.pairs [] = [] := by rw [pairs, List.product_nil, List.filter_nil]
    rw [List.count_eq_zero.mpr hcategory, if_neg hcategory, List.replicate_zero, surfacedFor, hnone]
    rfl

/-- The choice within the categories depends on which categories are asked for. -/
theorem perCategory_surfacedFor_congr {categories categories' : List Category}
    (h : ∀ category, category ∈ categories ↔ category ∈ categories') :
    Selection.perCategory id (set.surfacedFor context categories) =
      Selection.perCategory id (set.surfacedFor context categories') := by
  simp only [Selection.perCategory_eq, highest_ofCategory_surfacedFor, h]

/-- No pair of some categories fails if none of any single one of them does. -/
theorem forall_pairs_iff (p : Event × Category → Prop) (categories : List Category) :
    (∀ pair ∈ set.pairs categories, p pair) ↔
      ∀ category ∈ categories, ∀ pair ∈ set.pairs [category], p pair := by
  simp only [mem_pairs, List.mem_singleton]
  constructor
  · rintro h category hcategory pair ⟨hactive, rfl, hslot⟩
    exact h pair ⟨hactive, hcategory, hslot⟩
  · rintro h pair ⟨hactive, hcategory, hslot⟩
    exact h pair.2 hcategory pair ⟨hactive, rfl, hslot⟩

theorem exists_ok_iff {categories : List Category} :
    (∃ alerts, (set.resolve categories context).value = .ok alerts) ↔
      ∀ pair ∈ set.pairs categories, set.failure context pair = none := by
  constructor
  · rintro ⟨alerts, hok⟩
    exact (resolve_eq_ok_iff.mp hok).1
  · intro hbuilds
    exact ⟨_, resolve_eq_ok_iff.mpr ⟨hbuilds, rfl⟩⟩

end Surfaced

end EventSet

/-- **Categories asked for together are answered as if each were asked for alone.** The one question
has an answer exactly when all the others have. Then the alert that is chosen within a category is the
one that is chosen among the alerts for that category alone, if there are any, and a category that is
not asked for has none. So neither the order nor the repetition of the categories has a part in the
choice, and when more categories are asked for, their alerts are there in addition. -/
theorem categories_resolve_separately (set : EventSet) (categories : List Category)
    (context : Context) :
    ((∃ alerts, (set.resolve categories context).value = .ok alerts) ↔
        ∀ category ∈ categories, ∃ alone, (set.resolve [category] context).value = .ok alone) ∧
      ∀ alerts, (set.resolve categories context).value = .ok alerts →
        (∀ category ∈ categories, ∃ alone, (set.resolve [category] context).value = .ok alone ∧
          (Selection.perCategory id alerts).lookup category = Selection.highest id alone) ∧
        (∀ category, category ∉ categories →
          (Selection.perCategory id alerts).lookup category = none) ∧
        (∀ categories', (∀ category, category ∈ categories' ↔ category ∈ categories) →
          ∃ alerts', (set.resolve categories' context).value = .ok alerts' ∧
            Selection.perCategory id alerts' = Selection.perCategory id alerts) ∧
        ∀ more others, (set.resolve more context).value = .ok others →
          ∃ together, (set.resolve (categories ++ more) context).value = .ok together ∧
            together.Perm (alerts ++ others) := by
  have hsingle := set.forall_pairs_iff fun pair => set.failure context pair = none
  refine ⟨?_, fun alerts hok => ?_⟩
  · simp only [EventSet.exists_ok_iff]
    exact hsingle categories
  obtain ⟨hbuilds, rfl⟩ := EventSet.resolve_eq_ok_iff.mp hok
  have hchosen : ∀ category, (Selection.perCategory id (set.surfacedFor context categories)).lookup
      category = if category ∈ categories then
        Selection.highest id (set.surfacedFor context [category])
      else none := by
    intro category
    rw [Selection.lookup_perCategory, EventSet.highest_ofCategory_surfacedFor]
  refine ⟨fun category hcategory => ?_, fun category hcategory => ?_, fun categories' hsame => ?_,
    fun more others hmore => ?_⟩
  · refine ⟨_, EventSet.resolve_eq_ok_iff.mpr ⟨(hsingle _).mp hbuilds category hcategory, rfl⟩, ?_⟩
    exact (hchosen category).trans (if_pos hcategory)
  · exact (hchosen category).trans (if_neg hcategory)
  · have hbuilds' : ∀ pair ∈ set.pairs categories', set.failure context pair = none := by
      rw [hsingle] at hbuilds ⊢
      exact fun category hcategory => hbuilds category ((hsame category).mp hcategory)
    exact ⟨_, EventSet.resolve_eq_ok_iff.mpr ⟨hbuilds', rfl⟩,
      set.perCategory_surfacedFor_congr context hsame⟩
  · obtain ⟨hothers, rfl⟩ := EventSet.resolve_eq_ok_iff.mp hmore
    have hpairs := set.pairs_append_perm categories more
    have hbuilds' : ∀ pair ∈ set.pairs (categories ++ more), set.failure context pair = none := by
      intro pair hpair
      rcases List.mem_append.mp (hpairs.mem_iff.mp hpair) with hpair | hpair
      · exact hbuilds pair hpair
      · exact hothers pair hpair
    refine ⟨_, EventSet.resolve_eq_ok_iff.mpr ⟨hbuilds', rfl⟩, ?_⟩
    have hsurfaced := hpairs.filterMap (set.surfaced context)
    rwa [List.filterMap_append] at hsurfaced

/-- Two events that are active twice each, asked about in a list that repeats a category. -/
theorem choice_of_repeated_question :
    ∃ alerts alone together,
      ((run rivals overheatFirst).resolve [.permanent, .enable, .permanent] parked).value =
        .ok alerts ∧ alerts.length = 8 ∧
      ((run rivals overheatFirst).resolve [.permanent] parked).value = .ok alone ∧
      alone.length = 4 ∧
      (Selection.perCategory id alerts).lookup .permanent = Selection.highest id alone ∧
      (Selection.highest id alone).map Alert.tag = some "overheat/permanent" ∧
      (Selection.perCategory id alerts).lookup .warning = none ∧
      ((run rivals overheatFirst).resolve ([.permanent, .enable, .permanent] ++ [.permanent])
        parked).value = .ok together ∧ together.Perm (alerts ++ alone) := by
  have hok : ∃ alerts, ((run rivals overheatFirst).resolve [.permanent, .enable, .permanent]
      parked).value = .ok alerts ∧ alerts.length = 8 := ⟨_, rfl, by decide⟩
  have halone : ∃ alone, ((run rivals overheatFirst).resolve [.permanent] parked).value =
      .ok alone ∧ alone.length = 4 ∧
        (Selection.highest id alone).map Alert.tag = some "overheat/permanent" :=
    ⟨_, rfl, by decide, by decide⟩
  obtain ⟨alerts, hok, hlength⟩ := hok
  obtain ⟨alone, halone, hlength', htag⟩ := halone
  obtain ⟨hsome, hnone, -, hmore⟩ := (categories_resolve_separately (run rivals overheatFirst)
    [.permanent, .enable, .permanent] parked).2 alerts hok
  obtain ⟨_, halone', hchosen⟩ := hsome .permanent (by decide)
  obtain rfl := Except.ok.inj (halone.symm.trans halone')
  obtain ⟨together, htogether, hperm⟩ := hmore [.permanent] alone halone
  exact ⟨alerts, alone, together, hok, hlength, halone, hlength', hchosen, htag,
    hnone .warning (by decide), htogether, hperm⟩

end DriverAlerts
