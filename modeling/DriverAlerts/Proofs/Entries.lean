import Mathlib.Data.List.Induction
import Mathlib.Data.List.Nodup
/-!
# Entries by key

Maps are kept as lists of entries, and the first entry of a key is the one that counts. A key is found
exactly when some entry has it. In a list that gives each key once, the entries that count are all of
them, so nothing depends on their order, and an entry put in behind others is the first to be met when
the list is read from its end. In a list that gives a key twice, there is a first place where that
happens.
-/

namespace DriverAlerts

section Repeats

variable {α : Type}

/-- The item repeats an earlier one, and nothing before it does. -/
def FirstRepeat (items : List α) (item : α) : Prop :=
  ∃ before after, items = before ++ item :: after ∧ before.Nodup ∧ item ∈ before

theorem firstRepeat_nil (item : α) : ¬ FirstRepeat [] item := by
  rintro ⟨before, after, hsplit, -⟩
  exact List.append_ne_nil_of_right_ne_nil before (List.cons_ne_nil item after) hsplit.symm

theorem firstRepeat_concat {items : List α} {last item : α} :
    FirstRepeat (items ++ [last]) item ↔
      FirstRepeat items item ∨ items.Nodup ∧ last ∈ items ∧ last = item := by
  constructor
  · rintro ⟨before, after, hsplit, hnodup, hmem⟩
    rcases List.eq_nil_or_concat after with rfl | ⟨after, other, rfl⟩
    · obtain ⟨rfl, hlast⟩ := List.append_inj' hsplit rfl
      obtain rfl := List.singleton_inj.mp hlast
      exact .inr ⟨hnodup, hmem, rfl⟩
    · -- The repetition stands before the last item, so it is one of the shorter list.
      rw [List.concat_eq_append, ← List.cons_append, ← List.append_assoc] at hsplit
      exact .inl ⟨before, after, (List.append_inj' hsplit rfl).1, hnodup, hmem⟩
  · rintro (⟨before, after, rfl, hrepeats⟩ | ⟨hnodup, hmem, rfl⟩)
    · exact ⟨before, after ++ [last], List.append_assoc before _ _, hrepeats⟩
    · exact ⟨items, [], rfl, hnodup, hmem⟩

theorem nodup_keys_reverse {β : Type} {entries : List (α × β)} :
    (entries.reverse.map Prod.fst).Nodup ↔ (entries.map Prod.fst).Nodup := by
  rw [List.map_reverse, List.nodup_reverse]

end Repeats

variable {α β : Type} [BEq α]

theorem lookup_reverse_concat (entries : List (α × β)) (key last : α) (value : β) :
    (entries ++ [(last, value)]).reverse.lookup key =
      if key == last then some value else entries.reverse.lookup key := by
  rw [List.reverse_append, List.reverse_singleton, List.singleton_append, List.lookup_cons]
  cases key == last <;> rfl

variable [LawfulBEq α]

theorem lookup_map_value (f : α → β → β) (key : α) (entries : List (α × β)) :
    (entries.map fun (k, value) => (k, f k value)).lookup key = (entries.lookup key).map (f key) := by
  induction entries with
  | nil => rfl
  | cons entry entries ih =>
      obtain ⟨k, value⟩ := entry
      rw [List.map_cons, List.lookup_cons, List.lookup_cons, ih]
      cases hkey : key == k with
      | false => rfl
      | true =>
          rw [eq_of_beq hkey]
          rfl

theorem isSome_lookup (key : α) (entries : List (α × β)) :
    (entries.lookup key).isSome = (entries.map Prod.fst).contains key := by
  rw [Bool.eq_iff_iff, List.lookup_isSome_iff, List.contains_iff_mem, List.mem_map]
  constructor
  · rintro ⟨entry, hentry, hkey⟩
    exact ⟨entry, hentry, (eq_of_beq hkey).symm⟩
  · rintro ⟨entry, hentry, rfl⟩
    exact ⟨entry, hentry, beq_self_eq_true _⟩

/-- With one entry for each key, what is found is what is listed. -/
theorem lookup_eq_some_iff_mem {entries : List (α × β)} (hnodup : (entries.map Prod.fst).Nodup)
    {key : α} {value : β} : entries.lookup key = some value ↔ (key, value) ∈ entries := by
  rw [List.lookup_eq_some_iff]
  constructor
  · rintro ⟨before, after, rfl, -⟩
    exact List.mem_append_right before List.mem_cons_self
  · intro hmem
    obtain ⟨before, after, rfl⟩ := List.append_of_mem hmem
    rw [List.map_append, List.map_cons, List.nodup_middle, List.nodup_cons] at hnodup
    refine ⟨before, after, rfl, fun entry hentry => bne_iff_ne.mpr ?_⟩
    rintro rfl
    exact hnodup.1 (List.mem_append_left _ (List.mem_map.mpr ⟨entry, hentry, rfl⟩))

theorem isSome_lookup_reverse {key : α} {entries : List (α × β)} :
    (entries.reverse.lookup key).isSome ↔ key ∈ entries.map Prod.fst := by
  rw [isSome_lookup, List.contains_iff_mem, List.map_reverse, List.mem_reverse]

/-- What is found from the end is the value behind which the key does not come again. -/
theorem lookup_reverse_eq_some_iff {entries : List (α × β)} {key : α} {value : β} :
    entries.reverse.lookup key = some value ↔
      ∃ before after, entries = before ++ (key, value) :: after ∧ key ∉ after.map Prod.fst := by
  rw [List.lookup_eq_some_iff]
  constructor
  · rintro ⟨later, earlier, hentries, hlater⟩
    refine ⟨earlier.reverse, later.reverse, ?_, fun hmem => ?_⟩
    · rw [← List.reverse_reverse entries, hentries, List.reverse_append, List.reverse_cons,
        List.append_assoc, List.singleton_append]
    · rw [List.map_reverse, List.mem_reverse] at hmem
      obtain ⟨entry, hentry, rfl⟩ := List.mem_map.mp hmem
      exact absurd rfl (bne_iff_ne.mp (hlater entry hentry))
  · rintro ⟨before, after, rfl, hafter⟩
    refine ⟨after.reverse, before.reverse, ?_, fun entry hentry => bne_iff_ne.mpr ?_⟩
    · rw [List.reverse_append, List.reverse_cons, List.append_assoc, List.singleton_append]
    · rintro rfl
      exact hafter (List.mem_map_of_mem (List.mem_reverse.mp hentry))

/-- With one entry for each key, the order of the entries has no part in what is found. -/
theorem lookup_eq_of_perm {entries entries' : List (α × β)}
    (hnodup : (entries.map Prod.fst).Nodup) (h : entries.Perm entries') :
    (List.lookup · entries) = (List.lookup · entries') := by
  funext key
  apply Option.ext
  intro value
  rw [lookup_eq_some_iff_mem hnodup, lookup_eq_some_iff_mem ((h.map Prod.fst).nodup_iff.mp hnodup),
    h.mem_iff]

/-- With a key for each item, the entry of an item is found. -/
theorem lookup_map_of_injective {γ : Type} {key : γ → α} (hkey : Function.Injective key) (f : γ → β)
    {items : List γ} {item : γ} (hitem : item ∈ items) :
    (items.map fun item => (key item, f item)).lookup (key item) = some (f item) := by
  induction items with
  | nil => exact nomatch hitem
  | cons first items ih =>
      rw [List.map_cons, List.lookup_cons]
      by_cases hfirst : key item = key first
      · rw [hkey hfirst, beq_self_eq_true]
      · rw [beq_false_of_ne hfirst]
        exact ih ((List.mem_cons.mp hitem).resolve_left fun h => hfirst (congrArg key h))

/-- With an entry for each item that has a value, the value of an item is found. -/
theorem lookup_filterMap_value (value : α → Option β) {items : List α} {item : α}
    (hitem : item ∈ items) :
    (items.filterMap fun item => (value item).map (item, ·)).lookup item = value item := by
  cases hvalue : value item with
  | none =>
      rw [List.lookup_eq_none_iff]
      intro entry hentry
      obtain ⟨other, -, hother⟩ := List.mem_filterMap.mp hentry
      obtain ⟨found, hfound, rfl⟩ := Option.map_eq_some_iff.mp hother
      refine bne_iff_ne.mpr ?_
      rintro rfl
      exact nomatch hvalue.symm.trans hfound
  | some found =>
      induction items with
      | nil => exact nomatch hitem
      | cons first items ih =>
          by_cases hfirst : item = first
          · subst hfirst
            rw [List.filterMap_cons_some (by rw [hvalue, Option.map_some]), List.lookup_cons,
              beq_self_eq_true]
          · have hrest := ih ((List.mem_cons.mp hitem).resolve_left hfirst)
            cases hother : value first with
            | none => rw [List.filterMap_cons_none (by rw [hother, Option.map_none]), hrest]
            | some other =>
                rw [List.filterMap_cons_some (by rw [hother, Option.map_some]), List.lookup_cons,
                  beq_false_of_ne hfirst]
                exact hrest

/-- With one entry for each key, a key has at most the one that is found. -/
theorem filter_key {entries : List (α × β)} (hnodup : (entries.map Prod.fst).Nodup) (key : α) :
    entries.filter (·.1 == key) = (entries.lookup key).toList.map (key, ·) := by
  induction entries with
  | nil => rfl
  | cons entry entries ih =>
      obtain ⟨first, value⟩ := entry
      rw [List.map_cons, List.nodup_cons] at hnodup
      rw [List.lookup_cons, List.filter_cons]
      by_cases hkey : key = first
      · subst hkey
        have hothers : entries.filter (·.1 == key) = [] := by
          rw [List.filter_eq_nil_iff]
          intro entry hentry hfirst
          exact hnodup.1 (List.mem_map.mpr ⟨entry, hentry, eq_of_beq hfirst⟩)
        simp only [beq_self_eq_true, if_true, hothers]
        rfl
      · simp only [beq_false_of_ne hkey, beq_false_of_ne (Ne.symm hkey), Bool.false_eq_true,
          if_false, ih hnodup.2]

end DriverAlerts
