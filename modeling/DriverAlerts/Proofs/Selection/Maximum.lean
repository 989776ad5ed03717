import DriverAlerts.Proofs.Selection
import Mathlib.Order.Bounds.Basic
/-!
# The choice is the stable maximum

An item is chosen when it outranks everything before it and nothing behind it outranks it, and these two
conditions leave one place in the list. So the choice is known without the pass that makes it: it is the
first of the items that no item outranks, and of two lists one after the other it is the first list's
choice unless the second list's outranks it. Choosing within each category takes the items apart and
loses none that has a category, so the greatest of those choices is the choice among all.
-/

namespace DriverAlerts.Selection

variable {α : Type} {alert : α → Alert}

/-! ### Where the chosen item stands -/

theorem exists_split_of_highest {items : List α} {winner : α}
    (h : highest alert items = some winner) :
    ∃ before after, items = before ++ winner :: after ∧
      (∀ earlier ∈ before, (alert winner).outranks (alert earlier)) ∧
      ∀ later ∈ after, ¬ (alert later).outranks (alert winner) := by
  induction items using List.reverseRecOn generalizing winner with
  | nil => exact nomatch h
  | append_singleton items item ih =>
      rw [highest_concat] at h
      cases hbest : highest alert items with
      | none =>
          rw [hbest] at h
          obtain rfl := Option.some.inj h
          rw [(highest_eq_none_iff alert).mp hbest]
          exact ⟨[], [], rfl, List.forall_mem_nil _, List.forall_mem_nil _⟩
      | some current =>
          rw [hbest, prefer] at h
          by_cases hnew : (alert item).outranks (alert current)
          · rw [if_pos hnew] at h
            obtain rfl := Option.some.inj h
            refine ⟨items, [], rfl, fun earlier hearlier => ?_, List.forall_mem_nil _⟩
            have hearlier := weight_le_of_highest hbest hearlier
            -- What does not outweigh the winner so far is outranked by what outranks it.
            exact outranks_iff.mpr (hearlier.trans_lt (outranks_iff.mp hnew))
          · rw [if_neg hnew] at h
            obtain rfl := Option.some.inj h
            obtain ⟨before, after, rfl, hbefore, hafter⟩ := ih hbest
            refine ⟨before, after ++ [item], List.append_assoc before _ _, hbefore, ?_⟩
            rw [List.forall_mem_append, List.forall_mem_singleton]
            exact ⟨hafter, hnew⟩

theorem highest_of_split {before after : List α} {winner : α}
    (hbefore : ∀ earlier ∈ before, (alert winner).outranks (alert earlier))
    (hafter : ∀ later ∈ after, ¬ (alert later).outranks (alert winner)) :
    highest alert (before ++ winner :: after) = some winner := by
  have hwinner : prefer alert (highest alert before) winner = some winner := by
    cases hbest : highest alert before with
    | none => rfl
    | some current => rw [prefer, if_pos (hbefore current (mem_of_highest hbest))]
  rw [highest_append, List.foldl_cons, hwinner]
  induction after with
  | nil => rfl
  | cons later after ih =>
      rw [List.forall_mem_cons] at hafter
      rw [List.foldl_cons, prefer, if_neg hafter.1]
      exact ih hafter.2

/-- The places of the items that no item outranks. -/
def unbeaten (alert : α → Alert) (items : List α) : Set Nat :=
  { place | ∃ item, items[place]? = some item ∧
      ∀ other ∈ items, ¬ (alert other).outranks (alert item) }

theorem isLeast_unbeaten_of_split {before after : List α} {winner : α}
    (hbefore : ∀ earlier ∈ before, (alert winner).outranks (alert earlier))
    (hafter : ∀ later ∈ after, ¬ (alert later).outranks (alert winner)) :
    IsLeast (unbeaten alert (before ++ winner :: after)) before.length := by
  constructor
  · refine ⟨winner, by simp, fun other hother => ?_⟩
    have hle := weight_le_of_highest (highest_of_split hbefore hafter) hother
    rwa [outranks_iff, Nat.not_lt]
  · rintro place ⟨item, hitem, hunbeaten⟩
    by_contra hplace
    rw [Nat.not_le] at hplace
    rw [List.getElem?_append_left hplace] at hitem
    exact hunbeaten winner (List.mem_append_right _ List.mem_cons_self)
      (hbefore item (List.mem_of_getElem? hitem))

/-- The chosen item stands in the first place whose item is unbeaten, and outranks all before it. -/
theorem highest_eq_some_iff {items : List α} {winner : α} :
    highest alert items = some winner ↔
      ∃ place, items[place]? = some winner ∧ IsLeast (unbeaten alert items) place ∧
        ∀ i < place, ∀ earlier, items[i]? = some earlier →
          (alert winner).outranks (alert earlier) := by
  have hstands : ∀ {winner}, highest alert items = some winner →
      ∃ place, items[place]? = some winner ∧ IsLeast (unbeaten alert items) place ∧
        ∀ i < place, ∀ earlier, items[i]? = some earlier →
          (alert winner).outranks (alert earlier) := by
    intro winner h
    obtain ⟨before, after, rfl, hbefore, hafter⟩ := exists_split_of_highest h
    refine ⟨before.length, by simp, isLeast_unbeaten_of_split hbefore hafter, ?_⟩
    intro i hi earlier hearlier
    rw [List.getElem?_append_left hi] at hearlier
    exact hbefore earlier (List.mem_of_getElem? hearlier)
  refine ⟨hstands, ?_⟩
  rintro ⟨place, hwinner, hleast, -⟩
  cases hbest : highest alert items with
  | none =>
      rw [(highest_eq_none_iff alert).mp hbest] at hwinner
      exact nomatch hwinner
  | some chosen =>
      obtain ⟨place', hchosen, hleast', -⟩ := hstands hbest
      rw [hleast.unique hleast', hchosen] at hwinner
      exact hwinner

/-! ### Lists one after the other -/

/-- The pass may take the winner of what comes in place of all of it. -/
theorem prefer_assoc (best : Option α) (current item : α) :
    prefer alert (prefer alert best current) item =
      (prefer alert (some current) item).bind (prefer alert best) := by
  cases best with
  | none =>
      rw [prefer_none, prefer_some]
      split <;> rfl
  | some first =>
      -- Only where both comparisons go the same way does transitivity say how the third one goes.
      rw [prefer_some, prefer_some]
      by_cases hcurrent : (alert current).outranks (alert first)
      · rw [if_pos hcurrent, prefer_some]
        by_cases hitem : (alert item).outranks (alert current)
        · have hfirst : (alert item).outranks (alert first) :=
            outranks_iff.mpr ((outranks_iff.mp hcurrent).trans (outranks_iff.mp hitem))
          rw [if_pos hitem, Option.bind_some, prefer_some, if_pos hfirst]
        · rw [if_neg hitem, Option.bind_some, prefer_some, if_pos hcurrent]
      · rw [if_neg hcurrent]
        by_cases hitem : (alert item).outranks (alert current)
        · rw [if_pos hitem, Option.bind_some]
        · have hfirst : ¬ (alert item).outranks (alert first) := by
            rw [outranks_iff, Nat.not_lt] at hcurrent hitem ⊢
            exact hitem.trans hcurrent
          rw [if_neg hitem, Option.bind_some, prefer_some, prefer_some, if_neg hfirst,
            if_neg hcurrent]

theorem highest_append_eq (items more : List α) :
    highest alert (items ++ more) =
      match highest alert items, highest alert more with
      | best, none => best
      | none, some winner => some winner
      | some first, some second =>
        if (alert second).outranks (alert first) then some second else some first := by
  have hmore : highest alert (items ++ more) =
      (highest alert more).elim (highest alert items) (prefer alert (highest alert items)) := by
    induction more using List.reverseRecOn with
    | nil =>
        rw [List.append_nil]
        rfl
    | append_singleton more item ih =>
        -- The pass is one step longer on both sides, and the step can be made on the right first.
        rw [← List.append_assoc, highest_concat, highest_concat, ih]
        cases highest alert more with
        | none => rfl
        | some winner =>
            rw [Option.elim_some, prefer_assoc, prefer_some]
            split <;> rfl
  rw [hmore]
  cases highest alert items <;> cases highest alert more <;> rfl

/-! ### The choices within the categories -/

theorem mem_perCategory {items : List α} {category : Category} {item : α} :
    (category, item) ∈ perCategory alert items ↔
      highest alert (ofCategory alert category items) = some item := by
  rw [perCategory_eq, List.mem_filterMap]
  constructor
  · rintro ⟨_, -, hentry⟩
    obtain ⟨_, hwinner, hentry⟩ := Option.map_eq_some_iff.mp hentry
    obtain ⟨rfl, rfl⟩ := Prod.mk.inj hentry
    exact hwinner
  · intro hwinner
    exact ⟨category, category.mem_all, by rw [hwinner, Option.map_some]⟩

theorem mem_ofCategory {items : List α} {category : Category} {item : α} :
    item ∈ ofCategory alert category items ↔
      item ∈ items ∧ (alert item).category = some category := by
  rw [ofCategory, List.mem_filter, decide_eq_true_eq]

theorem mem_categories_perCategory {items : List α} {category : Category} :
    category ∈ (perCategory alert items).map Prod.fst ↔
      ∃ item ∈ items, (alert item).category = some category := by
  rw [List.mem_map]
  constructor
  · rintro ⟨⟨_, item⟩, hentry, rfl⟩
    exact ⟨item, mem_ofCategory.mp (mem_of_highest (mem_perCategory.mp hentry))⟩
  · rintro ⟨item, hitem⟩
    cases hwinner : highest alert (ofCategory alert category items) with
    | none =>
        have hmem := mem_ofCategory.mpr hitem
        rw [(highest_eq_none_iff alert).mp hwinner] at hmem
        exact absurd hmem List.not_mem_nil
    | some winner => exact ⟨(category, winner), mem_perCategory.mpr hwinner, rfl⟩

/-- The choices are listed by category, each category once. -/
theorem pairwise_perCategory (items : List α) :
    ((perCategory alert items).map Prod.fst).Pairwise
      fun left right => left.ctorIdx < right.ctorIdx := by
  have hcategories : (perCategory alert items).map Prod.fst =
      Category.all.filter fun category =>
        (highest alert (ofCategory alert category items)).isSome := by
    rw [perCategory_eq, List.map_filterMap, ← List.filterMap_eq_filter]
    congr 1
    funext category
    rw [Option.map_map, Option.guard]
    cases highest alert (ofCategory alert category items) <;> rfl
  rw [hcategories]
  exact Category.pairwise_all.filter _

theorem perCategory_filter_isSome (items : List α) :
    perCategory alert (items.filter fun item => (alert item).category.isSome) =
      perCategory alert items := by
  have hitems : ∀ category, ofCategory alert category
      (items.filter fun item => (alert item).category.isSome) =
        ofCategory alert category items := by
    intro category
    rw [ofCategory, List.filter_filter, ofCategory]
    congr 1
    funext item
    cases (alert item).category with
    | none => rfl
    | some other => rw [Option.isSome_some, Bool.and_true]
  rw [perCategory_eq, perCategory_eq]
  simp only [hitems]

theorem max?_perCategory {items : List α} (hresolved : ∀ item ∈ items, (alert item).category ≠ none) :
    ((perCategory alert items).map fun entry => (alert entry.2).priority.weight).max? =
      (highest alert items).map fun winner => (alert winner).priority.weight := by
  cases hbest : highest alert items with
  | none =>
      rw [(highest_eq_none_iff alert).mp hbest]
      rfl
  | some winner =>
      have hwinner := mem_of_highest hbest
      obtain ⟨category, hcategory⟩ := Option.ne_none_iff_exists'.mp (hresolved winner hwinner)
      have hmem := mem_ofCategory.mpr ⟨hwinner, hcategory⟩
      rw [Option.map_some, List.max?_eq_some_iff]
      constructor
      · -- The winner within the category of the winner among all is as urgent.
        obtain ⟨⟨_, chosen⟩, hentry, rfl⟩ :=
          List.mem_map.mp (mem_categories_perCategory.mpr ⟨winner, hwinner, hcategory⟩)
        have hchosen := mem_perCategory.mp hentry
        refine List.mem_map.mpr ⟨_, hentry, Nat.le_antisymm ?_ (weight_le_of_highest hchosen hmem)⟩
        exact weight_le_of_highest hbest (mem_ofCategory.mp (mem_of_highest hchosen)).1
      · intro weight hweight
        obtain ⟨⟨_, chosen⟩, hentry, rfl⟩ := List.mem_map.mp hweight
        have hchosen := mem_of_highest (mem_perCategory.mp hentry)
        exact weight_le_of_highest hbest (mem_ofCategory.mp hchosen).1

/-- **The choice is the stable maximum.** Nothing is chosen from nothing. Otherwise the chosen item stands
in the first place whose item no other outranks, and it outranks all before it. Of two lists one after
the other the second list's choice is taken if it outranks that of the first. A category has a choice
exactly when some item has that category, and it is the choice among those items, so items without a
category take no part. If every item has one, the greatest priority of these choices is that of the choice
among all. -/
theorem choice_is_stable_maximum (alert : α → Alert) (items : List α) :
    (highest alert items = none ↔ items = []) ∧
      (∀ winner, highest alert items = some winner ↔
        ∃ place, items[place]? = some winner ∧ IsLeast (unbeaten alert items) place ∧
          ∀ i < place, ∀ earlier, items[i]? = some earlier →
            (alert winner).outranks (alert earlier)) ∧
      (∀ more, highest alert (items ++ more) =
        match highest alert items, highest alert more with
        | best, none => best
        | none, some winner => some winner
        | some first, some second =>
          if (alert second).outranks (alert first) then some second else some first) ∧
      (∀ category, category ∈ (perCategory alert items).map Prod.fst ↔
        ∃ item ∈ items, (alert item).category = some category) ∧
      ((perCategory alert items).map Prod.fst).Pairwise
        (fun left right => left.ctorIdx < right.ctorIdx) ∧
      (∀ category, (perCategory alert items).lookup category =
        highest alert (items.filter fun item => (alert item).category = some category)) ∧
      perCategory alert (items.filter fun item => (alert item).category.isSome) =
        perCategory alert items ∧
      ((∀ item ∈ items, (alert item).category ≠ none) →
        ((perCategory alert items).map fun entry => (alert entry.2).priority.weight).max? =
          (highest alert items).map fun winner => (alert winner).priority.weight) :=
  ⟨highest_eq_none_iff alert, fun _ => highest_eq_some_iff, highest_append_eq items,
    fun _ => mem_categories_perCategory, pairwise_perCategory items, lookup_perCategory items,
    perCategory_filter_isSome items, max?_perCategory⟩

/-- Two equally urgent alerts between less urgent ones. -/
def tied : List Alert :=
  [(Alert.new "Overheated" "" ⟨.normal, .mid, .lower, .none, .none⟩ 1).resolved .overheat .permanent,
    (Alert.new "CAN Error" "" ⟨.critical, .full, .high, .none, .none⟩ 1).resolved .canError .warning,
    (Alert.new "USB Error" "" ⟨.critical, .full, .high, .none, .none⟩ 1).resolved .usbError .warning,
    (Alert.new "Out of Space" "" ⟨.normal, .mid, .low, .none, .none⟩ 1).resolved .outOfSpace
      .permanent]

/-- The earlier of the two is chosen, among all and by priority, and the less urgent ones compete in
their own category. -/
theorem choice_of_tied :
    (∀ alert ∈ tied, alert.category ≠ none) ∧
      (highest id tied).map Alert.tag = some "canError/warning" ∧
      ((perCategory id tied).lookup .permanent).map Alert.tag = some "outOfSpace/permanent" ∧
      ((perCategory id tied).map fun entry => entry.2.priority.weight).max? =
        some Priority.high.weight := by
  obtain ⟨-, -, -, -, -, hlookup, -, hmax⟩ := choice_is_stable_maximum id tied
  have hresolved : ∀ alert ∈ tied, alert.category ≠ none := by decide
  refine ⟨hresolved, by decide, ?_, ?_⟩
  · rw [hlookup]
    decide
  · exact (hmax hresolved).trans (by decide)

end DriverAlerts.Selection
