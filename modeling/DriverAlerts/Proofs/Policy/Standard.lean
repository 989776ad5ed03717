import DriverAlerts.Policy.Standard
import DriverAlerts.Proofs.Policy.Layout
/-!
# What the standard table is made of

The rows of the standard table name every event once and every category of an event once, so the
builder accepts them whatever the wording, and the slots of the table are the planned ones. Which texts
have to be there can be read off the plans: those of the built-in catalogs and no others. The first one
that a catalog lacks, in the order in which they are looked up, is the only reason for there to be no
table.
-/

namespace DriverAlerts

/-! ### Required texts -/

namespace Catalog

theorem require_eq (catalog : Catalog) (keys : List String) :
    catalog.require keys =
      match keys.find? fun key => (catalog.text? key).isNone with
      | some key => .error (.missingText catalog.locale.name key)
      | none => .ok () := by
  induction keys with
  | nil => rfl
  | cons key keys ih =>
      rw [require, ih, List.find?_cons, text]
      cases catalog.text? key <;> rfl

/-- A missing text is reported by the first key without one. -/
theorem require_eq_error_iff {catalog : Catalog} {keys : List String} {cause : ValidationError} :
    catalog.require keys = .error cause ↔
      ∃ before key after, keys = before ++ key :: after ∧ catalog.text? key = none ∧
        (∀ earlier ∈ before, (catalog.text? earlier).isSome) ∧
        cause = .missingText catalog.locale.name key := by
  rw [require_eq]
  constructor
  · intro h
    cases hfirst : keys.find? fun key => (catalog.text? key).isNone with
    | none =>
        rw [hfirst] at h
        exact absurd h (by simp)
    | some key =>
        rw [hfirst] at h
        obtain ⟨hkey, before, after, hkeys, hbefore⟩ := List.find?_eq_some_iff_append.mp hfirst
        exact ⟨before, key, after, hkeys, Option.isNone_iff_eq_none.mp hkey,
          by simpa using hbefore, (Except.error.inj h).symm⟩
  · rintro ⟨before, key, after, hkeys, hkey, hbefore, rfl⟩
    have hfirst : (keys.find? fun key => (catalog.text? key).isNone) = some key :=
      List.find?_eq_some_iff_append.mpr
        ⟨Option.isNone_iff_eq_none.mpr hkey, before, after, hkeys, by simpa using hbefore⟩
    rw [hfirst]

theorem require_eq_ok_iff {catalog : Catalog} {keys : List String} :
    catalog.require keys = .ok () ↔ ∀ key ∈ keys, (catalog.text? key).isSome := by
  have hnone : (∀ key ∈ keys, (catalog.text? key).isSome) ↔
      (keys.find? fun key => (catalog.text? key).isNone) = none := by
    simp [Option.isSome_iff_ne_none]
  rw [require_eq, hnone]
  cases keys.find? fun key => (catalog.text? key).isNone <;> simp

end Catalog

namespace Standard

/-! ### The planned slots -/

/-- All planned slots, with their events and categories. -/
def slots : List (Event × Category × SlotPlan) :=
  rows.flatMap fun (event, plan) => plan.map fun (category, slot) => (event, category, slot)

theorem mem_slots {event : Event} {category : Category} {slot : SlotPlan} :
    (event, category, slot) ∈ slots ↔ ∃ plan, (event, plan) ∈ rows ∧ (category, slot) ∈ plan := by
  simp [slots]

theorem nodup_events : (rows.map Prod.fst).Nodup := by
  decide +kernel

theorem exists_row (event : Event) : ∃ plan, (event, plan) ∈ rows := by
  have hall : Event.all.all fun event => (rows.map Prod.fst).contains event := by decide
  have hmem := List.all_eq_true.mp hall event event.mem_all
  rw [List.contains_iff_mem] at hmem
  obtain ⟨⟨_, plan⟩, hplan, rfl⟩ := List.mem_map.mp hmem
  exact ⟨plan, hplan⟩

theorem nodup_categories {event : Event} {plan : RowPlan} (hplan : (event, plan) ∈ rows) :
    (plan.map Prod.fst).Nodup := by
  have hall : rows.all fun row => (row.2.map Prod.fst).Nodup := by decide
  exact of_decide_eq_true (List.all_eq_true.mp hall _ hplan)

theorem mem_keys_iff {key : String} :
    key ∈ keys ↔ ((Catalog.embedded .en).text? key).isSome := by
  have hneeded : keys.all fun key => (Text.english.map Prod.fst).contains key := by decide +kernel
  have hused : (Text.english.map Prod.fst).all keys.contains := by decide +kernel
  rw [List.all_eq_true] at hneeded hused
  rw [Catalog.text?, isSome_lookup]
  constructor
  · exact hneeded key
  · intro h
    exact List.contains_iff_mem.mp (hused key (List.contains_iff_mem.mp h))

/-! ### The table of the plans -/

section Table

variable {wording : Wording} {window : Float} {table : Table}

theorem exists_table (wording : Wording) (window : Float) :
    ∃ table, Standard.table wording window = .ok table := by
  refine ⟨_, TableBuilder.build_ofRows_eq_ok_iff.mpr ⟨?_, rfl⟩⟩
  rw [List.map_map]
  exact nodup_events

theorem row?_table (htable : Standard.table wording window = .ok table) {event : Event} {row : Row} :
    table.row? event = some row ↔ ∃ plan, (event, plan) ∈ rows ∧ row = plan.row wording window := by
  rw [TableBuilder.row?_of_build htable, List.mem_map]
  constructor
  · rintro ⟨⟨_, plan⟩, hplan, hrow⟩
    obtain ⟨rfl, rfl⟩ := Prod.mk.inj hrow
    exact ⟨plan, hplan, rfl⟩
  · rintro ⟨plan, hplan, rfl⟩
    exact ⟨(event, plan), hplan, rfl⟩

theorem contains_table (htable : Standard.table wording window = .ok table) (event : Event) :
    table.contains event := by
  obtain ⟨plan, hplan⟩ := exists_row event
  rw [Table.contains, (row?_table htable).mpr ⟨plan, hplan, rfl⟩, Option.isSome_some]

/-- The slots of the table are the planned ones in its wording. -/
theorem slot?_table (htable : Standard.table wording window = .ok table) {event : Event}
    {category : Category} {slot : Slot} :
    table.slot? event category = some slot ↔
      ∃ plan, (event, category, plan) ∈ slots ∧ slot = plan.slot wording window := by
  have hrow : ∀ {plan : RowPlan}, (event, plan) ∈ rows →
      ((plan.row wording window).slot? category = some slot ↔
        ∃ slotPlan, (category, slotPlan) ∈ plan ∧ slot = slotPlan.slot wording window) := by
    intro plan hplan
    have hkeys : ((plan.map fun (category, slot) =>
        (category, slot.slot wording window)).reverse.map Prod.fst).Nodup := by
      rw [List.map_reverse, List.nodup_reverse, List.map_map]
      exact nodup_categories hplan
    rw [RowPlan.row, Row.slot?_ofSlots, lookup_eq_some_iff_mem hkeys, List.mem_reverse, List.mem_map]
    simp [eq_comm]
  rw [Table.slot?, Option.bind_eq_some_iff]
  constructor
  · rintro ⟨_, hfound, hslot⟩
    obtain ⟨plan, hplan, rfl⟩ := (row?_table htable).mp hfound
    obtain ⟨slotPlan, hmem, rfl⟩ := (hrow hplan).mp hslot
    exact ⟨slotPlan, mem_slots.mpr ⟨plan, hplan, hmem⟩, rfl⟩
  · rintro ⟨slotPlan, hmem, rfl⟩
    obtain ⟨plan, hplan, hmem⟩ := mem_slots.mp hmem
    exact ⟨_, (row?_table htable).mpr ⟨plan, hplan, rfl⟩, (hrow hplan).mpr ⟨slotPlan, hmem, rfl⟩⟩

theorem hasCategory_table (htable : Standard.table wording window = .ok table) {event : Event}
    {category : Category} :
    table.hasCategory event category ↔ ∃ plan, (event, category, plan) ∈ slots := by
  rw [Table.hasCategory, Option.isSome_iff_exists]
  simp only [slot?_table htable]
  constructor
  · rintro ⟨_, plan, hplan, -⟩
    exact ⟨plan, hplan⟩
  · rintro ⟨plan, hplan⟩
    exact ⟨_, plan, hplan, rfl⟩

theorem sameLayout_table {wording' : Wording} {window' : Float} {table' : Table}
    (htable : Standard.table wording window = .ok table)
    (htable' : Standard.table wording' window' = .ok table') : table.SameLayout table' := by
  intro event
  refine ⟨?_, fun category => ?_⟩
  · rw [contains_table htable, contains_table htable']
  · rw [Bool.eq_iff_iff, hasCategory_table htable, hasCategory_table htable']

end Table

end Standard

/-! ### Tables from catalogs -/

namespace Table

section Catalog

variable {catalog : Catalog} {window : Float}

theorem standardWithCatalog_eq_ok_iff {table : Table} :
    standardWithCatalog catalog window = .ok table ↔
      (∀ key ∈ Standard.keys, (catalog.text? key).isSome) ∧
        Standard.table (.ofTexts catalog.textOrEmpty) window = .ok table := by
  rw [standardWithCatalog, ← Catalog.require_eq_ok_iff]
  cases catalog.require Standard.keys with
  | ok _ => exact (and_iff_right rfl).symm
  | error cause => exact iff_of_false (fun h => nomatch h) (fun h => nomatch h.1)

theorem standardWithCatalog_eq_error_iff {cause : ValidationError} :
    standardWithCatalog catalog window = .error cause ↔
      catalog.require Standard.keys = .error cause := by
  obtain ⟨table, htable⟩ := Standard.exists_table (.ofTexts catalog.textOrEmpty) window
  rw [standardWithCatalog]
  cases catalog.require Standard.keys with
  | ok _ =>
      change Standard.table _ _ = _ ↔ _
      rw [htable]
      exact iff_of_false (fun h => nomatch h) (fun h => nomatch h)
  | error other => simp only [bind, Except.bind, Except.error.injEq]

theorem exists_standardWithCatalog_iff (catalog : Catalog) (window : Float) :
    (∃ table, standardWithCatalog catalog window = .ok table) ↔
      ∀ key, ((Catalog.embedded .en).text? key).isSome → (catalog.text? key).isSome := by
  simp only [standardWithCatalog_eq_ok_iff, exists_and_left, Standard.exists_table, and_true,
    Standard.mem_keys_iff]

theorem exists_standard_embedded (locale : Locale) (window : Float) :
    ∃ table, standardWithCatalog (.embedded locale) window = .ok table := by
  rw [exists_standardWithCatalog_iff]
  have hkeys : Text.russian.map Prod.fst = Text.english.map Prod.fst := by decide
  intro key hkey
  cases locale with
  | en => exact hkey
  | ru =>
      rw [Catalog.text?, isSome_lookup] at hkey ⊢
      rw [Catalog.embedded, hkeys]
      exact hkey

end Catalog

theorem value_standard (config : Config) :
    (standard config).value =
      match config.validate with
      | .error cause => .error cause
      | .ok () => standardWithCatalog (.embedded config.locale) config.escalationWindow := by
  obtain ⟨table, htable⟩ := exists_standard_embedded config.locale config.escalationWindow
  rw [standard]
  cases config.validate with
  | error cause => rfl
  | ok _ => simp only [htable]

theorem exists_standard_iff {config : Config} :
    (∃ table, (standard config).value = .ok table) ↔ config.validate = .ok () := by
  obtain ⟨table, htable⟩ := exists_standard_embedded config.locale config.escalationWindow
  rw [value_standard, htable]
  cases config.validate <;> simp

theorem standard_eq_error_iff {config : Config} {cause : ValidationError} :
    (standard config).value = .error cause ↔ config.validate = .error cause := by
  obtain ⟨table, htable⟩ := exists_standard_embedded config.locale config.escalationWindow
  rw [value_standard, htable]
  cases config.validate <;> simp

end Table

theorem Config.validate_of_ofJson {json : String} {config : Config}
    (h : ofJson json = .ok config) : config.validate = .ok () := by
  rw [ofJson] at h
  split at h
  · exact absurd h (by simp)
  · next decoded _ =>
    cases hvalid : decoded.validate with
    | error cause =>
        rw [hvalid] at h
        exact nomatch h
    | ok _ =>
        rw [hvalid] at h
        obtain rfl : decoded = config := Except.ok.inj h
        exact hvalid

/-- **A catalog is good for the standard table when it has the keys of the English one.** The first key
that it lacks, in the order in which the keys are looked up, is the only thing that can go wrong, and
no event is declared twice. Every table has a row for each event, and all of them have the same layout,
whatever the texts and the window. So the table of a configuration exists exactly when the
configuration is valid, and it is valid if it was read. -/
theorem standard_table_of_complete_catalog (catalog : Catalog) (window : Float) :
    ((∃ table, Table.standardWithCatalog catalog window = .ok table) ↔
        ∀ key, ((Catalog.embedded .en).text? key).isSome → (catalog.text? key).isSome) ∧
      (∀ cause, Table.standardWithCatalog catalog window = .error cause ↔
        ∃ before key after, Standard.keys = before ++ key :: after ∧ catalog.text? key = none ∧
          (∀ earlier ∈ before, (catalog.text? earlier).isSome) ∧
          cause = .missingText catalog.locale.name key) ∧
      (∀ event, Table.standardWithCatalog catalog window ≠ .error (.duplicateRow event)) ∧
      (∀ table, Table.standardWithCatalog catalog window = .ok table →
        (∀ event, table.contains event) ∧
          ∀ catalog' window' table', Table.standardWithCatalog catalog' window' = .ok table' →
            table.SameLayout table' ∧ table.fingerprint = table'.fingerprint) ∧
      (∀ config,
        ((∃ table, (Table.standard config).value = .ok table) ↔ config.validate = .ok ()) ∧
          ∀ cause, (Table.standard config).value = .error cause ↔ config.validate = .error cause) ∧
      ∀ json config, Config.ofJson json = .ok config →
        ∃ table, (Table.standard config).value = .ok table := by
  refine ⟨Table.exists_standardWithCatalog_iff catalog window, fun cause => ?_, fun event h => ?_,
    fun table htable => ?_, fun config => ?_, fun json config hjson => ?_⟩
  · rw [Table.standardWithCatalog_eq_error_iff, Catalog.require_eq_error_iff]
  · rw [Table.standardWithCatalog_eq_error_iff, Catalog.require_eq_error_iff] at h
    obtain ⟨_, _, _, _, _, _, hcause⟩ := h
    exact nomatch hcause
  · have hmade := (Table.standardWithCatalog_eq_ok_iff.mp htable).2
    refine ⟨Standard.contains_table hmade, fun catalog' window' table' htable' => ?_⟩
    have hlayout := Standard.sameLayout_table hmade (Table.standardWithCatalog_eq_ok_iff.mp htable').2
    exact ⟨hlayout, Table.fingerprint_eq_of_sameLayout hlayout⟩
  · exact ⟨Table.exists_standard_iff, fun cause => Table.standard_eq_error_iff⟩
  · exact Table.exists_standard_iff.mpr (Config.validate_of_ofJson hjson)

/-- The Russian texts without two keys, of which the unit is looked up first. -/
def incompleteCatalog : Catalog :=
  ⟨.ru, Text.russian.filter fun (key, _) => key ≠ "camera_error" && key ≠ "unit.mph"⟩

/-- A configuration in Russian. -/
def russianConfig : String :=
  "\x7b\"locale\": \"ru\", \"soft_disable_escalation_secs\": 2\x7d"

theorem standard_table_of_incompleteCatalog :
    Table.standardWithCatalog incompleteCatalog 0.5 = .error (.missingText "ru" "unit.mph") ∧
      ∃ config russian english, Config.ofJson russianConfig = .ok config ∧
        (Table.standard config).value = .ok russian ∧
        Table.standardWithCatalog (.embedded .en) (0.0 / 0.0) = .ok english ∧
        english.contains .lkasDisabled ∧ english.fingerprint = russian.fingerprint := by
  constructor
  · obtain ⟨-, hcause, -⟩ := standard_table_of_complete_catalog incompleteCatalog 0.5
    refine (hcause _).mpr ⟨Standard.keys.take 5, "unit.mph", Standard.keys.drop 6, ?_, ?_, ?_, rfl⟩
    · rfl
    · decide +kernel
    · decide +kernel
  · have hread : (Config.ofJson russianConfig).toBool := by decide +kernel
    cases hconfig : Config.ofJson russianConfig with
    | error cause =>
        rw [hconfig] at hread
        exact absurd hread Bool.false_ne_true
    | ok config =>
        obtain ⟨henglish, -, -, hsame, -, hjson⟩ :=
          standard_table_of_complete_catalog (.embedded .en) (0.0 / 0.0)
        obtain ⟨english, hbuilt⟩ := henglish.mpr fun _ => id
        obtain ⟨russian, hrussian⟩ := hjson russianConfig config hconfig
        have hvalid := Config.validate_of_ofJson hconfig
        have hbuilt' := hrussian
        rw [Table.value_standard, hvalid] at hbuilt'
        exact ⟨config, russian, english, rfl, hrussian, hbuilt, (hsame _ hbuilt).1 .lkasDisabled,
          ((hsame _ hbuilt).2 _ _ _ hbuilt').2⟩

end DriverAlerts
