import DriverAlerts.Alert.Presets
import DriverAlerts.Proofs.EventSet.Run
import DriverAlerts.Proofs.Policy.Builder
import Mathlib.Data.Finset.Dedup
/-!
# The text of a layout can be read back

The text names the events with a row and the categories of each row, and puts a mark behind each of
them that occurs in no name. So it is determined by that outline and determines it, and the outline of
a table says no more and no less than which events have rows and which categories the rows have. The
digest of the text therefore identifies the layout as far as it identifies texts.
-/

namespace DriverAlerts

/-! ### Items with a mark behind each -/

theorem append_mark_inj {α : Type} {mark : α} {left right restLeft restRight : List α}
    (hleft : mark ∉ left) (hright : mark ∉ right)
    (h : left ++ mark :: restLeft = right ++ mark :: restRight) :
    left = right ∧ restLeft = restRight := by
  induction left generalizing right with
  | nil =>
      cases right with
      | nil => exact ⟨rfl, List.tail_eq_of_cons_eq h⟩
      | cons first right =>
          have hfirst : mark = first := (List.cons.inj h).1
          exact absurd (hfirst ▸ List.mem_cons_self) hright
  | cons first left ih =>
      cases right with
      | nil =>
          have hfirst : first = mark := (List.cons.inj h).1
          exact absurd (hfirst ▸ List.mem_cons_self) hleft
      | cons first' right =>
          obtain ⟨rfl, htail⟩ := List.cons.inj h
          obtain ⟨rfl, hrest⟩ :=
            ih (List.not_mem_of_not_mem_cons hleft) (List.not_mem_of_not_mem_cons hright) htail
          exact ⟨rfl, hrest⟩

/-- A list can be read off the texts of its items if none contains the mark behind it. -/
theorem flatMap_marked_injective {α β : Type} {spell : α → List β} {mark : β}
    (hspell : Function.Injective spell) (hmark : ∀ item, mark ∉ spell item) :
    Function.Injective fun items : List α => items.flatMap fun item => spell item ++ [mark] := by
  intro left
  induction left with
  | nil =>
      intro right h
      cases right with
      | nil => rfl
      | cons item right => simp at h
  | cons item left ih =>
      intro right h
      cases right with
      | nil => simp at h
      | cons item' right =>
          simp only [List.flatMap_cons, List.append_assoc, List.singleton_append] at h
          obtain ⟨hitem, hrest⟩ := append_mark_inj (hmark item) (hmark item') h
          rw [hspell hitem, ih hrest]

/-! ### Outlines -/

namespace Layout

/-- The events with a row, in declaration order, and the categories of each row. -/
def outline (row? : Event → Option Row) : List (Event × List Category) :=
  Event.all.filterMap fun event => (row? event).map fun row => (event, row.categories)

/-- A line of the text, without the mark behind it. -/
def spellEntry (entry : Event × List Category) : List Char :=
  entry.1.name.toList ++ ':' ::
    entry.2.flatMap fun category => category.name.toList ++ [',']

theorem text_eq_spell_outline (row? : Event → Option Row) :
    text row? = String.ofList ((outline row?).flatMap fun entry => spellEntry entry ++ [';']) := by
  rw [text, outline, List.filterMap_eq_flatMap_toList, List.flatMap_assoc]
  congr 2
  funext event
  cases row? event with
  | none => rfl
  | some row => simp [line, spellEntry, Layout.categories]

theorem spellEntry_injective : Function.Injective spellEntry := by
  rintro ⟨event, categories⟩ ⟨event', categories'⟩ h
  obtain ⟨hevent, hcategories⟩ := Event.name_append_cons_inj (show ¬ ':'.isAlpha by decide) h
  have hname : Function.Injective fun category : Category => category.name.toList :=
    fun _ _ h => Named.name_injective (String.toList_injective h)
  have hmark : ∀ category : Category, ',' ∉ category.name.toList :=
    fun category hmem => absurd (category.name_letters _ hmem) (by decide)
  exact Prod.ext hevent (flatMap_marked_injective hname hmark hcategories)

theorem semicolon_not_mem_spellEntry (entry : Event × List Category) : ';' ∉ spellEntry entry := by
  simp only [spellEntry, List.mem_append, List.mem_cons, List.mem_flatMap, List.not_mem_nil, or_false]
  rintro (hname | hcolon | ⟨category, -, hname | hcomma⟩)
  · exact absurd (entry.1.name_letters _ hname) (by decide)
  · exact absurd hcolon (by decide)
  · exact absurd (category.name_letters _ hname) (by decide)
  · exact absurd hcomma (by decide)

/-- The text and the outline of a layout determine each other. -/
theorem text_eq_iff_outline_eq {left right : Event → Option Row} :
    text left = text right ↔ outline left = outline right := by
  rw [text_eq_spell_outline, text_eq_spell_outline, String.ofList_inj]
  exact (flatMap_marked_injective spellEntry_injective semicolon_not_mem_spellEntry).eq_iff

theorem mem_outline {row? : Event → Option Row} {event : Event} {categories : List Category} :
    (event, categories) ∈ outline row? ↔ (row? event).map Row.categories = some categories := by
  simp only [outline, List.mem_filterMap, Option.map_eq_some_iff, Prod.mk.injEq]
  constructor
  · rintro ⟨_, -, row, hrow, rfl, rfl⟩
    exact ⟨row, hrow, rfl⟩
  · rintro ⟨row, hrow, rfl⟩
    exact ⟨event, event.mem_all, row, hrow, rfl, rfl⟩

theorem outline_eq_iff {left right : Event → Option Row} :
    outline left = outline right ↔
      ∀ event, (left event).map Row.categories = (right event).map Row.categories := by
  constructor
  · intro h event
    apply Option.ext
    intro categories
    rw [← mem_outline, ← mem_outline, h]
  · intro h
    rw [outline, outline]
    congr 1
    funext event
    have hevent := congrArg (Option.map (Prod.mk event)) (h event)
    rwa [Option.map_map, Option.map_map] at hevent

end Layout

/-! ### Layouts of tables -/

theorem toList_loop (bytes : ByteArray) (i : Nat) (done : List UInt8) :
    ByteArray.toList.loop bytes i done = done.reverse ++ bytes.data.toList.drop i := by
  fun_induction ByteArray.toList.loop bytes i done with
  | case1 i done hi ih =>
      have hlength : i < bytes.data.toList.length := hi
      rw [ih, List.reverse_cons, List.append_assoc, List.singleton_append,
        List.drop_eq_getElem_cons hlength, Array.getElem_toList, ByteArray.get!, getElem!_pos]
  | case2 i done hi => rw [List.drop_of_length_le (Nat.le_of_not_lt hi), List.append_nil]

theorem utf8_inj {left right : String} :
    left.toUTF8.toList = right.toUTF8.toList ↔ left = right := by
  simp only [ByteArray.toList, toList_loop, List.reverse_nil, List.nil_append, List.drop_zero,
    Array.toList_inj]
  exact ⟨fun h => String.toByteArray_inj.mp (ByteArray.ext h), fun h => h ▸ rfl⟩

theorem Row.categories_eq_iff {left right : Row} :
    left.categories = right.categories ↔ ∀ category, left.has category = right.has category := by
  constructor
  · intro h category
    rw [Bool.eq_iff_iff, ← mem_categories, ← mem_categories, h]
  · intro h
    rw [categories, categories, funext h]

namespace Table

/-- The tables have rows for the same events, and the rows of each event have the same categories. -/
def SameLayout (left right : Table) : Prop :=
  ∀ event, left.contains event = right.contains event ∧
    ∀ category, left.hasCategory event category = right.hasCategory event category

/-- The bytes of which the digest is taken. -/
def layoutBytes (table : Table) : List UInt8 :=
  (Layout.text table.row?).toUTF8.toList

theorem fingerprint_eq_hexDigest (table : Table) :
    table.fingerprint = Blake3.hexDigest table.layoutBytes :=
  table.fingerprint_eq

theorem hasCategory_eq (table : Table) (event : Event) (category : Category) :
    table.hasCategory event category = (table.row? event).any fun row => row.has category := by
  rw [hasCategory, slot?]
  cases table.row? event <;> rfl

theorem sameLayout_iff {left right : Table} :
    left.SameLayout right ↔
      ∀ event, (left.row? event).map Row.categories = (right.row? event).map Row.categories := by
  refine forall_congr' fun event => ?_
  simp only [contains, hasCategory_eq]
  cases left.row? event with
  | none => cases right.row? event <;> simp
  | some row =>
      cases right.row? event with
      | none => simp
      | some row' => simp [Row.categories_eq_iff]

theorem layoutBytes_eq_iff {left right : Table} :
    left.layoutBytes = right.layoutBytes ↔ left.SameLayout right := by
  rw [layoutBytes, layoutBytes, utf8_inj, Layout.text_eq_iff_outline_eq, Layout.outline_eq_iff,
    sameLayout_iff]

theorem fingerprint_eq_of_sameLayout {left right : Table} (h : left.SameLayout right) :
    left.fingerprint = right.fingerprint := by
  rw [fingerprint_eq_hexDigest, fingerprint_eq_hexDigest, layoutBytes_eq_iff.mpr h]

end Table

/-! ### Layouts of declared rows -/

/-- Rows as they are declared: events and the slots that are put in for them. -/
abbrev Declarations := List (Event × List (Category × Slot))

namespace TableBuilder

/-- A builder that has been given declared rows. -/
def declare (declared : Declarations) : TableBuilder :=
  .ofRows (declared.map fun (event, slots) => (event, .ofSlots slots))

/-- What a layout knows of a declared row. -/
def shape (row : Event × List (Category × Slot)) : Event × Finset Category :=
  (row.1, (row.2.map Prod.fst).toFinset)

section Declared

variable {declared declared' : Declarations} {table table' : Table} {event : Event}

theorem row?_of_build_declare (hbuild : (declare declared).build = .ok table) {row : Row} :
    table.row? event = some row ↔ ∃ slots, (event, slots) ∈ declared ∧ row = .ofSlots slots := by
  rw [row?_of_build hbuild, List.mem_map]
  constructor
  · rintro ⟨⟨_, slots⟩, hslots, hrow⟩
    obtain ⟨rfl, rfl⟩ := Prod.mk.inj hrow
    exact ⟨slots, hslots, rfl⟩
  · rintro ⟨slots, hslots, rfl⟩
    exact ⟨(event, slots), hslots, rfl⟩

theorem contains_iff_shape (hbuild : (declare declared).build = .ok table) :
    table.contains event ↔ ∃ categories, (event, categories) ∈ declared.map shape := by
  rw [Table.contains, Option.isSome_iff_exists]
  simp only [row?_of_build_declare hbuild, List.mem_map, shape]
  constructor
  · rintro ⟨_, slots, hslots, rfl⟩
    exact ⟨_, (event, slots), hslots, rfl⟩
  · rintro ⟨_, ⟨_, slots⟩, hslots, hshape⟩
    obtain ⟨rfl, -⟩ := Prod.mk.inj hshape
    exact ⟨_, slots, hslots, rfl⟩

theorem hasCategory_iff_shape (hbuild : (declare declared).build = .ok table)
    {category : Category} :
    table.hasCategory event category ↔
      ∃ categories, (event, categories) ∈ declared.map shape ∧ category ∈ categories := by
  rw [Table.hasCategory_eq, Option.any_eq_true]
  simp only [row?_of_build_declare hbuild, List.mem_map, shape]
  constructor
  · rintro ⟨_, ⟨slots, hslots, rfl⟩, hhas⟩
    exact ⟨_, ⟨(event, slots), hslots, rfl⟩, List.mem_toFinset.mpr (Row.has_ofSlots.mp hhas)⟩
  · rintro ⟨_, ⟨⟨_, slots⟩, hslots, hshape⟩, hmem⟩
    obtain ⟨rfl, rfl⟩ := Prod.mk.inj hshape
    exact ⟨_, ⟨slots, hslots, rfl⟩, Row.has_ofSlots.mpr (List.mem_toFinset.mp hmem)⟩

theorem sameLayout_of_perm_shape (hbuild : (declare declared).build = .ok table)
    (hbuild' : (declare declared').build = .ok table')
    (hshape : (declared.map shape).Perm (declared'.map shape)) : table.SameLayout table' := by
  intro event
  constructor
  · rw [Bool.eq_iff_iff, contains_iff_shape hbuild, contains_iff_shape hbuild']
    simp only [hshape.mem_iff]
  · intro category
    rw [Bool.eq_iff_iff, hasCategory_iff_shape hbuild, hasCategory_iff_shape hbuild']
    simp only [hshape.mem_iff]

end Declared

end TableBuilder

theorem verify_eq_ok_iff {snapshot : Snapshot} {table : Table} :
    snapshot.verify table = .ok () ↔ snapshot.fingerprint = table.fingerprint := by
  rw [Snapshot.verify]
  split <;> simp [*]

/-- If the digest tells two layouts apart, a published snapshot is verified by the tables of the
publisher's layout. -/
theorem verify_snapshot_eq_ok_iff {set : EventSet} {table : Table}
    (hdigest : Blake3.hexDigest set.table.layoutBytes = Blake3.hexDigest table.layoutBytes →
      set.table.layoutBytes = table.layoutBytes) (capturedAt : Timestamp) :
    (set.snapshot capturedAt).verify table = .ok () ↔ set.table.SameLayout table := by
  rw [verify_eq_ok_iff, EventSet.snapshot, Table.fingerprint_eq_hexDigest,
    Table.fingerprint_eq_hexDigest, ← Table.layoutBytes_eq_iff]
  exact ⟨hdigest, congrArg Blake3.hexDigest⟩

/-- **The fingerprint identifies the layout.** It is the digest of bytes that are the same for two
tables exactly when the tables have rows for the same events and the rows have the same categories. So
they are the same whenever the rows were declared alike up to the order of the rows, the order and the
repetition of the slots, and what the slots hold. If the digest tells these two byte sequences apart,
what a set over one table publishes is verified by the other exactly when the layouts are the same, and
then the tables classify every event alike. -/
theorem fingerprint_identifies_layout {sent received : Declarations} {sender receiver : Table}
    (hsender : (TableBuilder.declare sent).build = .ok sender)
    (hreceiver : (TableBuilder.declare received).build = .ok receiver) :
    sender.fingerprint = Blake3.hexDigest sender.layoutBytes ∧
      (sender.layoutBytes = receiver.layoutBytes ↔ sender.SameLayout receiver) ∧
      ((sent.map TableBuilder.shape).Perm (received.map TableBuilder.shape) →
        sender.layoutBytes = receiver.layoutBytes) ∧
      ((Blake3.hexDigest sender.layoutBytes = Blake3.hexDigest receiver.layoutBytes →
          sender.layoutBytes = receiver.layoutBytes) →
        ∀ commands capturedAt,
          (((run sender commands).snapshot capturedAt).verify receiver = .ok () ↔
              sender.SameLayout receiver) ∧
            (((run sender commands).snapshot capturedAt).verify receiver = .ok () →
              ∀ event category,
                sender.hasCategory event category = receiver.hasCategory event category)) := by
  refine ⟨sender.fingerprint_eq_hexDigest, Table.layoutBytes_eq_iff, fun hshape => ?_,
    fun hdigest commands capturedAt => ?_⟩
  · exact Table.layoutBytes_eq_iff.mpr
      (TableBuilder.sameLayout_of_perm_shape hsender hreceiver hshape)
  · have hverify : ((run sender commands).snapshot capturedAt).verify receiver = .ok () ↔
        sender.SameLayout receiver := by
      have hset := @verify_snapshot_eq_ok_iff (run sender commands) receiver
      rw [table_run] at hset
      exact hset hdigest capturedAt
    exact ⟨hverify, fun h event category => (hverify.mp h event).2 category⟩

/-- Two slots and a silent row. -/
def withSilentRow : Declarations :=
  [(.overheat, [(.permanent, .fixed (Presets.normalPermanent "Overheat" "")),
    (.noEntry, .fixed (Presets.normalPermanent "Overheat" ""))]), (.stockFcw, [])]

/-- The same slots in another order, one of them replaced, and no row in place of the silent one. -/
def withoutSilentRow : Declarations :=
  [(.overheat, [(.noEntry, .dynamic fun _ _ => .error ⟨"branch"⟩),
    (.permanent, .fixed (Presets.normalPermanent "Hot" "Stop")),
    (.noEntry, .dynamic fun _ _ => .ok (Presets.normalPermanent "Hot" ""))])]

theorem fingerprint_of_withSilentRow :
    ∃ sender receiver, (TableBuilder.declare withSilentRow).build = .ok sender ∧
      (TableBuilder.declare withoutSilentRow).build = .ok receiver ∧
      Blake3.hexDigest sender.layoutBytes ≠ Blake3.hexDigest receiver.layoutBytes ∧
      (∀ category, sender.hasCategory .overheat category = receiver.hasCategory .overheat category) ∧
      ¬ sender.SameLayout receiver ∧
      ((run sender []).snapshot .epoch).verify receiver ≠ .ok () := by
  have hsender : (TableBuilder.declare withSilentRow).build =
      .ok (.ofRows (TableBuilder.declare withSilentRow).row?) := rfl
  have hreceiver : (TableBuilder.declare withoutSilentRow).build =
      .ok (.ofRows (TableBuilder.declare withoutSilentRow).row?) := rfl
  obtain ⟨-, hbytes, -, hverify⟩ := fingerprint_identifies_layout hsender hreceiver
  have hdigest : Blake3.hexDigest (Table.ofRows (TableBuilder.declare withSilentRow).row?).layoutBytes ≠
      Blake3.hexDigest (Table.ofRows (TableBuilder.declare withoutSilentRow).row?).layoutBytes := by
    decide +kernel
  have hlayout := fun h => hdigest (congrArg Blake3.hexDigest (hbytes.mpr h))
  refine ⟨_, _, hsender, hreceiver, hdigest, ?_, hlayout, ?_⟩
  · intro category
    cases category <;> decide +kernel
  · rw [Ne, (hverify (fun h => absurd h hdigest) [] .epoch).1]
    exact hlayout

end DriverAlerts
