import DriverAlerts.Policy.Table
import DriverAlerts.Proofs.Entries
import DriverAlerts.Proofs.Vocabulary
/-!
# What a builder has been given

Rows and slots are both collected by putting one entry after another into a map, so what is found for
a key is the entry that was put in last. A row does not tell which of its slots were replaced. A builder
remembers that an event was given two rows and then makes no table, so no row of a table was replaced,
and a table has exactly the rows that were declared.
-/

namespace DriverAlerts

namespace Row

/-- Of the slots that were put in for a category, the last one counts. -/
theorem slot?_ofSlots (slots : List (Category × Slot)) (category : Category) :
    (ofSlots slots).slot? category = slots.reverse.lookup category := by
  induction slots using List.reverseRecOn with
  | nil => rfl
  | append_singleton slots entry ih =>
      obtain ⟨last, slot⟩ := entry
      have hput : ofSlots (slots ++ [(last, slot)]) = (ofSlots slots).put last slot := by
        rw [ofSlots, List.foldl_append, List.foldl_cons, List.foldl_nil, ofSlots]
      rw [hput, lookup_reverse_concat, ← ih, put]
      simp only [beq_iff_eq]

/-- The slot of a category is the one behind which no other was put in for it. -/
theorem slot?_ofSlots_eq_some_iff {slots : List (Category × Slot)} {category : Category}
    {slot : Slot} :
    (ofSlots slots).slot? category = some slot ↔
      ∃ before after, slots = before ++ (category, slot) :: after ∧
        category ∉ after.map Prod.fst := by
  rw [slot?_ofSlots, lookup_reverse_eq_some_iff]

theorem has_ofSlots {slots : List (Category × Slot)} {category : Category} :
    (ofSlots slots).has category ↔ category ∈ slots.map Prod.fst := by
  rw [has, slot?_ofSlots, isSome_lookup_reverse]

theorem mem_categories {row : Row} {category : Category} :
    category ∈ row.categories ↔ row.has category := by
  rw [categories, List.mem_filter]
  exact and_iff_right category.mem_all

end Row

theorem Table.mem_events {table : Table} {event : Event} :
    event ∈ table.events ↔ table.contains event := by
  rw [events, List.mem_filter]
  exact and_iff_right event.mem_all

namespace TableBuilder

theorem ofRows_concat (rows : List (Event × Row)) (event : Event) (row : Row) :
    ofRows (rows ++ [(event, row)]) = (ofRows rows).row event row := by
  rw [ofRows, List.foldl_append, List.foldl_cons, List.foldl_nil, ofRows]

theorem row?_ofRows (rows : List (Event × Row)) (event : Event) :
    (ofRows rows).row? event = rows.reverse.lookup event := by
  induction rows using List.reverseRecOn with
  | nil => rfl
  | append_singleton rows entry ih =>
      obtain ⟨last, row⟩ := entry
      rw [ofRows_concat, lookup_reverse_concat, ← ih, TableBuilder.row]
      simp only [beq_iff_eq]

theorem isSome_row?_ofRows {rows : List (Event × Row)} {event : Event} :
    ((ofRows rows).row? event).isSome ↔ event ∈ rows.map Prod.fst := by
  rw [row?_ofRows, isSome_lookup_reverse]

/-- No repeated row is remembered exactly when no event was declared twice. -/
theorem duplicate_ofRows_eq_none_iff (rows : List (Event × Row)) :
    (ofRows rows).duplicate = none ↔ (rows.map Prod.fst).Nodup := by
  induction rows using List.reverseRecOn with
  | nil => exact iff_of_true rfl List.nodup_nil
  | append_singleton rows entry ih =>
      obtain ⟨last, row⟩ := entry
      rw [ofRows_concat, TableBuilder.row, List.map_append, List.map_singleton,
        ← List.concat_eq_append, List.nodup_concat, ← ih, ← isSome_row?_ofRows]
      cases (ofRows rows).duplicate with
      | some first => simp
      | none => cases (ofRows rows).row? last <;> simp

/-- The repeated event that is remembered is the first one. -/
theorem duplicate_ofRows_eq_some_iff {rows : List (Event × Row)} {event : Event} :
    (ofRows rows).duplicate = some event ↔ FirstRepeat (rows.map Prod.fst) event := by
  induction rows using List.reverseRecOn with
  | nil => exact iff_of_false (fun h => nomatch h) (firstRepeat_nil event)
  | append_singleton rows entry ih =>
      obtain ⟨last, row⟩ := entry
      rw [ofRows_concat, TableBuilder.row, List.map_append, List.map_singleton, firstRepeat_concat,
        ← ih, ← duplicate_ofRows_eq_none_iff, ← isSome_row?_ofRows]
      cases (ofRows rows).duplicate with
      | some first => simp
      | none => cases (ofRows rows).row? last <;> simp

end TableBuilder

namespace Table

/-- The rows of a table are those that it was made of. -/
@[simp] theorem row?_ofRows (row? : Event → Option Row) : (ofRows row?).row? = row? := by
  funext event
  have hkeys : ((Event.all.map fun event => (event, row? event)).map Prod.fst).Nodup := by
    rw [List.map_map]
    exact (List.map_id Event.all).symm ▸ Named.nodup_all
  have hlookup : (Event.all.map fun event => (event, row? event)).lookup event =
      some (row? event) :=
    (lookup_eq_some_iff_mem hkeys).mpr (List.mem_map_of_mem event.mem_all)
  exact congrArg Option.join hlookup

end Table

namespace TableBuilder

variable {rows : List (Event × Row)} {table : Table}

theorem build_ofRows_eq_ok_iff :
    (ofRows rows).build = .ok table ↔
      (rows.map Prod.fst).Nodup ∧ table = .ofRows fun event => rows.reverse.lookup event := by
  rw [build, ← duplicate_ofRows_eq_none_iff, ← funext (row?_ofRows rows)]
  cases (ofRows rows).duplicate <;> simp [eq_comm]

theorem build_ofRows_eq_error_iff {cause : ValidationError} :
    (ofRows rows).build = .error cause ↔
      ∃ event, FirstRepeat (rows.map Prod.fst) event ∧ cause = .duplicateRow event := by
  rw [build]
  simp only [← duplicate_ofRows_eq_some_iff]
  cases (ofRows rows).duplicate <;> simp [eq_comm]

theorem exists_build_error_iff :
    (∃ cause, (ofRows rows).build = .error cause) ↔ ¬ (rows.map Prod.fst).Nodup := by
  rw [← duplicate_ofRows_eq_none_iff, build]
  cases (ofRows rows).duplicate <;> simp

/-- Where no event is declared twice, the order of the rows has no part in the table. -/
theorem build_ofRows_of_perm {rows' : List (Event × Row)} (hbuild : (ofRows rows).build = .ok table)
    (h : rows.Perm rows') : (ofRows rows').build = .ok table := by
  obtain ⟨hnodup, rfl⟩ := build_ofRows_eq_ok_iff.mp hbuild
  refine build_ofRows_eq_ok_iff.mpr ⟨(h.map Prod.fst).nodup_iff.mp hnodup, ?_⟩
  have hperm : rows.reverse.Perm rows'.reverse :=
    (List.reverse_perm rows).trans (h.trans (List.reverse_perm rows').symm)
  rw [lookup_eq_of_perm (nodup_keys_reverse.mpr hnodup) hperm]

/-- A table has the rows that were declared and no others. -/
theorem row?_of_build (hbuild : (ofRows rows).build = .ok table) {event : Event} {row : Row} :
    table.row? event = some row ↔ (event, row) ∈ rows := by
  obtain ⟨hnodup, rfl⟩ := build_ofRows_eq_ok_iff.mp hbuild
  rw [Table.row?_ofRows, lookup_eq_some_iff_mem (nodup_keys_reverse.mpr hnodup), List.mem_reverse]

end TableBuilder

end DriverAlerts
