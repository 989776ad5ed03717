import DriverAlerts.Alert.Presets
import DriverAlerts.Proofs.Policy.Builder
/-!
# A table is what was declared

A builder is called once for each row, in any order, and each row is made of slots that are put in one
after the other. Which of the calls decides is different for the two: within a row a slot gives way to a
later one, but a row never gives way, for then there is no table. So what a table says of an event is
what one call says of it, and the order of the calls shows nowhere, neither in an answer of the table
nor in a listing nor in the digest.
-/

namespace DriverAlerts

/-- One call on a builder: a row of slots that are put in one after the other, or a silent row. -/
inductive BuilderCall where
  | row (event : Event) (slots : List (Category × Slot))
  | silent (event : Event)

namespace BuilderCall

def event : BuilderCall → Event
  | row event _ => event
  | silent event => event

/-- The slots that are put in, in call order. -/
def slots : BuilderCall → List (Category × Slot)
  | row _ slots => slots
  | silent _ => []

def apply (builder : TableBuilder) : BuilderCall → TableBuilder
  | row event slots => builder.row event (.ofSlots slots)
  | silent event => builder.silent event

/-- The row that a call declares. -/
def entry (call : BuilderCall) : Event × Row :=
  (call.event, .ofSlots call.slots)

theorem apply_eq_row (builder : TableBuilder) (call : BuilderCall) :
    call.apply builder = builder.row call.event (.ofSlots call.slots) := by
  cases call <;> rfl

theorem keys_map_entry (calls : List BuilderCall) :
    (calls.map entry).map Prod.fst = calls.map event := by
  rw [List.map_map]
  rfl

end BuilderCall

namespace TableBuilder

/-- A builder on which calls have been made in their order. -/
def ofCalls (calls : List BuilderCall) : TableBuilder :=
  calls.foldl BuilderCall.apply empty

theorem ofCalls_eq (calls : List BuilderCall) :
    ofCalls calls = ofRows (calls.map BuilderCall.entry) := by
  rw [ofCalls, ofRows, List.foldl_map]
  congr 1
  funext builder call
  exact BuilderCall.apply_eq_row builder call

end TableBuilder

namespace Table

/-- The events of a table are listed in declaration order, each once. -/
theorem pairwise_events (table : Table) :
    table.events.Pairwise fun left right => left.ctorIdx < right.ctorIdx :=
  Event.pairwise_all.filter _

theorem nodup_events (table : Table) : table.events.Nodup :=
  Named.nodup_all.filter _

/-- A row says of its event what the table says. -/
theorem slot?_of_row? {table : Table} {event : Event} {row : Row} (hrow : table.row? event = some row)
    (category : Category) : table.slot? event category = row.slot? category := by
  rw [slot?, hrow, Option.bind_some]

end Table

namespace Row

theorem pairwise_categories (row : Row) :
    row.categories.Pairwise fun left right => left.ctorIdx < right.ctorIdx :=
  Category.pairwise_all.filter _

end Row

namespace TableBuilder

section Built

variable {calls : List BuilderCall} {table : Table} (hbuild : (ofCalls calls).build = .ok table)
include hbuild

theorem row?_of_build_ofCalls {event : Event} {row : Row} :
    table.row? event = some row ↔
      ∃ call ∈ calls, call.event = event ∧ row = .ofSlots call.slots := by
  rw [ofCalls_eq] at hbuild
  rw [row?_of_build hbuild, List.mem_map]
  refine exists_congr fun call => and_congr_right fun _ => ?_
  rw [BuilderCall.entry, Prod.mk.injEq, eq_comm (b := row)]

theorem nodup_events_of_build : (calls.map BuilderCall.event).Nodup := by
  rw [ofCalls_eq, build_ofRows_eq_ok_iff, BuilderCall.keys_map_entry] at hbuild
  exact hbuild.1

theorem contains_of_build {event : Event} :
    table.contains event ↔ event ∈ calls.map BuilderCall.event := by
  rw [Table.contains, Option.isSome_iff_exists, List.mem_map]
  simp only [row?_of_build_ofCalls hbuild]
  constructor
  · rintro ⟨_, call, hcall, hevent, -⟩
    exact ⟨call, hcall, hevent⟩
  · rintro ⟨call, hcall, hevent⟩
    exact ⟨_, call, hcall, hevent, rfl⟩

theorem slot?_of_build {event : Event} {category : Category} {slot : Slot} :
    table.slot? event category = some slot ↔
      ∃ call ∈ calls, call.event = event ∧
        ∃ before after, call.slots = before ++ (category, slot) :: after ∧
          category ∉ after.map Prod.fst := by
  rw [Table.slot?, Option.bind_eq_some_iff]
  simp only [row?_of_build_ofCalls hbuild, ← Row.slot?_ofSlots_eq_some_iff]
  constructor
  · rintro ⟨_, ⟨call, hcall, hevent, rfl⟩, hslot⟩
    exact ⟨call, hcall, hevent, hslot⟩
  · rintro ⟨call, hcall, hevent, hslot⟩
    exact ⟨_, ⟨call, hcall, hevent, rfl⟩, hslot⟩

theorem hasCategory_of_build {event : Event} {category : Category} :
    table.hasCategory event category ↔
      ∃ call ∈ calls, call.event = event ∧ category ∈ call.slots.map Prod.fst := by
  rw [Table.hasCategory, Option.isSome_iff_exists]
  simp only [Table.slot?, Option.bind_eq_some_iff, row?_of_build_ofCalls hbuild,
    ← Row.has_ofSlots, Row.has, Option.isSome_iff_exists]
  constructor
  · rintro ⟨slot, _, ⟨call, hcall, hevent, rfl⟩, hslot⟩
    exact ⟨call, hcall, hevent, slot, hslot⟩
  · rintro ⟨call, hcall, hevent, slot, hslot⟩
    exact ⟨slot, _, ⟨call, hcall, hevent, rfl⟩, hslot⟩

/-- A table has as many rows as there were calls. -/
theorem size_of_build : table.size = calls.length := by
  have hperm : table.events.Perm (calls.map BuilderCall.event) := by
    rw [List.perm_ext_iff_of_nodup table.nodup_events (nodup_events_of_build hbuild)]
    intro event
    rw [Table.mem_events, contains_of_build hbuild]
  rw [Table.size, hperm.length_eq, List.length_map]

end Built

/-- The order of the calls has no part in the table. -/
theorem build_ofCalls_of_perm {calls calls' : List BuilderCall} {table : Table}
    (hbuild : (ofCalls calls).build = .ok table) (h : calls.Perm calls') :
    (ofCalls calls').build = .ok table := by
  rw [ofCalls_eq] at hbuild ⊢
  exact build_ofRows_of_perm hbuild (h.map BuilderCall.entry)

end TableBuilder

/-- **A table is what was declared.** There is no table exactly when an event is declared more than once,
and the error names the event of the first call that repeats an earlier one. Otherwise the table has a
row for each call and no others. In every answer about an event it says what that call declared, where
the slot of a category is the last one that was put in for it. Events and categories are listed in
declaration order, and the same calls in another order make the same table, digest included. -/
theorem table_is_what_was_declared (calls : List BuilderCall) :
    ((∃ cause, (TableBuilder.ofCalls calls).build = .error cause) ↔
        ¬ (calls.map BuilderCall.event).Nodup) ∧
      (∀ cause, (TableBuilder.ofCalls calls).build = .error cause ↔
        ∃ event, FirstRepeat (calls.map BuilderCall.event) event ∧ cause = .duplicateRow event) ∧
      ∀ table, (TableBuilder.ofCalls calls).build = .ok table →
        (∀ event, table.contains event ↔ event ∈ calls.map BuilderCall.event) ∧
        (∀ event row, table.row? event = some row ↔
          ∃ call ∈ calls, call.event = event ∧ row = .ofSlots call.slots) ∧
        (∀ event category slot, table.slot? event category = some slot ↔
          ∃ call ∈ calls, call.event = event ∧
            ∃ before after, call.slots = before ++ (category, slot) :: after ∧
              category ∉ after.map Prod.fst) ∧
        (∀ event category, table.hasCategory event category ↔
          ∃ call ∈ calls, call.event = event ∧ category ∈ call.slots.map Prod.fst) ∧
        table.size = calls.length ∧
        (∀ event, event ∈ table.events ↔ event ∈ calls.map BuilderCall.event) ∧
        table.events.Pairwise (fun left right => left.ctorIdx < right.ctorIdx) ∧
        (∀ event row, table.row? event = some row →
          row.categories.Pairwise (fun left right => left.ctorIdx < right.ctorIdx) ∧
            ∀ category, row.slot? category = table.slot? event category ∧
              row.has category = table.hasCategory event category ∧
              (category ∈ row.categories ↔ table.hasCategory event category)) ∧
        ∀ calls', calls.Perm calls' → (TableBuilder.ofCalls calls').build = .ok table := by
  refine ⟨?_, fun cause => ?_, fun table hbuild => ?_⟩
  · rw [TableBuilder.ofCalls_eq, TableBuilder.exists_build_error_iff, BuilderCall.keys_map_entry]
  · rw [TableBuilder.ofCalls_eq, TableBuilder.build_ofRows_eq_error_iff, BuilderCall.keys_map_entry]
  · have hcontains := @TableBuilder.contains_of_build calls table hbuild
    refine ⟨fun _ => hcontains, fun _ _ => TableBuilder.row?_of_build_ofCalls hbuild,
      fun _ _ _ => TableBuilder.slot?_of_build hbuild,
      fun _ _ => TableBuilder.hasCategory_of_build hbuild, TableBuilder.size_of_build hbuild,
      fun _ => Table.mem_events.trans hcontains, table.pairwise_events, fun event row hrow => ?_,
      fun _ hperm => TableBuilder.build_ofCalls_of_perm hbuild hperm⟩
    refine ⟨row.pairwise_categories, fun category => ?_⟩
    have hslot := Table.slot?_of_row? hrow category
    have hhas : row.has category = table.hasCategory event category := by
      rw [Row.has, ← hslot, Table.hasCategory]
    refine ⟨hslot.symm, hhas, ?_⟩
    rw [Row.mem_categories, hhas]

/-- A row in which a slot is replaced, and a silent row for an earlier event. -/
def overheatThenFcw : List BuilderCall :=
  [.row .overheat [(.permanent, .fixed (Presets.normalPermanent "Hot" "")),
    (.noEntry, .dynamic fun _ _ => .error ⟨"branch"⟩),
    (.permanent, .fixed (Presets.normalPermanent "Overheated" ""))], .silent .stockFcw]

/-- The replaced slot is gone, the order of the calls makes no difference, and the first of two
repetitions is an error. -/
theorem table_of_overheatThenFcw :
    ∃ table, (TableBuilder.ofCalls overheatThenFcw).build = .ok table ∧
      (TableBuilder.ofCalls overheatThenFcw.reverse).build = .ok table ∧
      table.slot? .overheat .permanent =
        some (.fixed (Presets.normalPermanent "Overheated" "")) ∧
      table.contains .stockFcw ∧ table.hasCategory .stockFcw .permanent = false ∧
      table.size = 2 ∧
      (TableBuilder.ofCalls (overheatThenFcw ++ [.silent .overheat, .silent .stockFcw])).build =
        .error (.duplicateRow .overheat) := by
  have hbuild : (TableBuilder.ofCalls overheatThenFcw).build =
      .ok (.ofRows (TableBuilder.ofCalls overheatThenFcw).row?) := rfl
  obtain ⟨-, -, hbuilt⟩ := table_is_what_was_declared overheatThenFcw
  obtain ⟨hcontains, -, hslot, hcategory, hsize, -, -, -, hperm⟩ := hbuilt _ hbuild
  obtain ⟨-, herror, -⟩ :=
    table_is_what_was_declared (overheatThenFcw ++ [.silent .overheat, .silent .stockFcw])
  refine ⟨_, hbuild, hperm _ (List.reverse_perm _).symm, ?_, (hcontains _).mpr (by decide), ?_, hsize,
    ?_⟩
  · exact (hslot _ _ _).mpr ⟨_, List.mem_cons_self, rfl, [_, _], [], rfl, List.not_mem_nil⟩
  · rw [← Bool.not_eq_true, hcategory]
    decide
  · exact (herror _).mpr ⟨.overheat, ⟨[.overheat, .stockFcw], [.stockFcw], rfl, by decide, by decide⟩,
      rfl⟩

end DriverAlerts
