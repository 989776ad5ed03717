import DriverAlerts.Proofs.EventSet.Run
import DriverAlerts.Proofs.Vocabulary
/-!
# Taking events from records

Records name events, and a reader may meet names that it does not know. It can skip them, taking the
other records as it goes and counting what it skips, or it can refuse the whole batch, which it has to
read to the end before it takes anything. The two differ exactly where a name is unknown: then the strict
reader reports the first such name and leaves the set as it was. Neither of them looks at the flags.
-/

namespace DriverAlerts

namespace Event

/-- The texts that name an event. -/
def names : List String :=
  all.map name

theorem mem_names {text : String} : text ∈ names ↔ ∃ event : Event, event.name = text := by
  rw [names, List.mem_map]
  exact exists_congr fun event => and_iff_right event.mem_all

end Event

namespace EventRecord

theorem isKnown_iff {record : EventRecord} : record.isKnown ↔ record.name ∈ Event.names := by
  rw [isKnown, Option.isSome_iff_exists, Event.mem_names]
  exact exists_congr fun _ => Named.ofName?_eq_some_iff

theorem isKnown_eq_false_iff {record : EventRecord} :
    record.isKnown = false ↔ record.name ∉ Event.names := by
  rw [← Bool.not_eq_true, isKnown_iff]

theorem knownEvents_append (records more : List EventRecord) :
    knownEvents (records ++ more) = knownEvents records ++ knownEvents more :=
  List.filterMap_append

theorem length_knownEvents (records : List EventRecord) :
    (knownEvents records).length = records.countP isKnown :=
  List.length_filterMap_eq_countP

/-- The names that are known, in the order of the records. -/
theorem map_name_knownEvents (records : List EventRecord) :
    (knownEvents records).map Event.name =
      (records.map name).filter fun text => text ∈ Event.names := by
  induction records with
  | nil => rfl
  | cons record records ih =>
      rw [knownEvents] at ih ⊢
      rw [List.filterMap_cons, List.map_cons]
      cases hname : Named.ofName? (α := Event) record.name with
      | none =>
          have hunknown : record.name ∉ Event.names := by
            rw [← isKnown_eq_false_iff, isKnown, hname]
            rfl
          rw [List.filter_cons_of_neg (by simpa using hunknown)]
          exact ih
      | some event =>
          have hevent : event.name = record.name := Named.ofName?_eq_some_iff.mp hname
          have hknown : record.name ∈ Event.names := Event.mem_names.mpr ⟨event, hevent⟩
          rw [List.filter_cons_of_pos (by simpa using hknown), List.map_cons, hevent, ih]

end EventRecord

open EventRecord (knownEvents)

namespace EventSet

/-- Additions for one cycle go behind the active events and change nothing else. -/
theorem extend_unsticky (set : EventSet) (events : List Event) :
    set.extend (events.map fun event => ⟨event, false⟩) =
      { set with active := set.active ++ events } := by
  have hevents : (events.map fun event => (⟨event, false⟩ : Addition)).map Addition.event =
      events := by
    rw [List.map_map]
    exact List.map_id events
  have hsticky : (events.map fun event => (⟨event, false⟩ : Addition)).filter Addition.sticky =
      [] := by
    rw [List.filter_map, List.map_eq_nil_iff, List.filter_eq_nil_iff]
    exact fun _ _ => Bool.false_ne_true
  rw [extend, hevents, hsticky, List.map_nil, List.append_nil]

/-! ### Batches -/

theorem skipped_add_length_knownEvents (set : EventSet) (records : List EventRecord) :
    (set.addRecords records).value.2 + (knownEvents records).length = records.length := by
  rw [value_addRecords, EventRecord.length_knownEvents, Nat.add_comm,
    List.length_eq_countP_add_countP EventRecord.isKnown]
  simp only [decide_not, Bool.decide_eq_true]

theorem skipped_ne_zero_iff {set : EventSet} {records : List EventRecord} :
    (set.addRecords records).value.2 ≠ 0 ↔ ∃ record ∈ records, record.isKnown = false := by
  rw [value_addRecords, ← Nat.pos_iff_ne_zero, List.countP_pos_iff]
  simp only [Bool.not_eq_true']

/-- A batch can be taken in two parts, and what is skipped adds up. -/
theorem value_addRecords_append (set : EventSet) (records more : List EventRecord) :
    (set.addRecords (records ++ more)).value =
      (((set.addRecords records).value.1.addRecords more).value.1,
        (set.addRecords records).value.2 +
          ((set.addRecords records).value.1.addRecords more).value.2) := by
  simp only [value_addRecords, extend_extend, EventRecord.knownEvents_append, List.map_append,
    List.countP_append]

theorem tryAddRecords_eq_error_iff {set : EventSet} {records : List EventRecord}
    {cause : RecordError} :
    (set.tryAddRecords records).value.2 = .error cause ↔
      ∃ before record after, records = before ++ record :: after ∧
        (∀ earlier ∈ before, earlier.name ∈ Event.names) ∧ record.name ∉ Event.names ∧
        cause = .unknownEvent record.name := by
  rw [value_tryAddRecords]
  constructor
  · intro herror
    cases hfirst : records.find? fun record => !record.isKnown with
    | none =>
        rw [hfirst] at herror
        exact nomatch herror
    | some record =>
        rw [hfirst] at herror
        obtain ⟨hunknown, before, after, hsplit, hbefore⟩ := List.find?_eq_some_iff_append.mp hfirst
        refine ⟨before, record, after, hsplit, fun earlier hearlier => ?_, ?_, ?_⟩
        · simpa only [Bool.not_not, EventRecord.isKnown_iff] using hbefore earlier hearlier
        · simpa only [Bool.not_eq_true', EventRecord.isKnown_eq_false_iff] using hunknown
        · exact (Except.error.inj herror).symm
  · rintro ⟨before, record, after, rfl, hbefore, hunknown, rfl⟩
    have hfirst : ((before ++ record :: after).find? fun record => !record.isKnown) =
        some record := by
      refine List.find?_eq_some_iff_append.mpr ⟨?_, before, after, rfl, fun earlier hearlier => ?_⟩
      · rw [EventRecord.isKnown_eq_false_iff.mpr hunknown]
        rfl
      · rw [EventRecord.isKnown_iff.mpr (hbefore earlier hearlier)]
        rfl
    rw [hfirst]

/-- Strict intake fails when lenient intake would skip something. -/
theorem exists_tryAddRecords_error_iff {set : EventSet} {records : List EventRecord} :
    (∃ cause, (set.tryAddRecords records).value.2 = .error cause) ↔
      (set.addRecords records).value.2 ≠ 0 := by
  rw [skipped_ne_zero_iff, value_tryAddRecords]
  cases hfirst : records.find? fun record => !record.isKnown with
  | none =>
      have hknown := List.find?_eq_none.mp hfirst
      constructor
      · rintro ⟨cause, herror⟩
        exact nomatch herror
      · rintro ⟨record, hrecord, hunknown⟩
        exact absurd (by rw [hunknown]; rfl) (hknown record hrecord)
  | some record =>
      have hunknown := List.find?_some hfirst
      refine iff_of_true ⟨_, rfl⟩ ⟨record, List.mem_of_find?_eq_some hfirst, ?_⟩
      simpa only [Bool.not_eq_true'] using hunknown

/-- A batch that is refused leaves the set as it was. -/
theorem tryAddRecords_of_error {set : EventSet} {records : List EventRecord} {cause : RecordError}
    (herror : (set.tryAddRecords records).value.2 = .error cause) :
    (set.tryAddRecords records).value.1 = set := by
  rw [value_tryAddRecords] at herror ⊢
  cases hfirst : records.find? fun record => !record.isKnown with
  | none =>
      rw [hfirst] at herror
      cases herror
  | some record => rfl

theorem tryAddRecords_of_ok {set : EventSet} {records : List EventRecord}
    (hok : (set.tryAddRecords records).value.2 = .ok ()) :
    (set.tryAddRecords records).value.1 = (set.addRecords records).value.1 := by
  rw [value_tryAddRecords] at hok ⊢
  rw [value_addRecords]
  cases hfirst : records.find? fun record => !record.isKnown with
  | none => rfl
  | some record =>
      rw [hfirst] at hok
      cases hok

/-! ### Flags -/

theorem addRecords_map_name (set : EventSet) (records : List EventRecord) :
    set.addRecords records =
      set.addRecords ((records.map EventRecord.name).map fun text => ⟨text, .none⟩) := by
  induction records generalizing set with
  | nil => rfl
  | cons record records ih =>
      -- Whether a record is taken, and what is said if not, is decided by its name.
      have hevent : (⟨record.name, .none⟩ : EventRecord).event = record.event := rfl
      rw [List.map_cons, List.map_cons, addRecords, addRecords, hevent]
      cases record.event with
      | ok event =>
          simp only [← ih]
      | error cause => simp only [← ih]

theorem eventsOfRecords_map_name (records : List EventRecord) :
    eventsOfRecords records =
      eventsOfRecords ((records.map EventRecord.name).map fun text => ⟨text, .none⟩) := by
  rw [eventsOfRecords, eventsOfRecords, List.map_map, List.mapM_map]
  rfl

theorem addRecords_congr (set : EventSet) {records records' : List EventRecord}
    (hnames : records'.map EventRecord.name = records.map EventRecord.name) :
    set.addRecords records' = set.addRecords records := by
  rw [addRecords_map_name, hnames, ← addRecords_map_name]

theorem tryAddRecords_congr (set : EventSet) {records records' : List EventRecord}
    (hnames : records'.map EventRecord.name = records.map EventRecord.name) :
    set.tryAddRecords records' = set.tryAddRecords records := by
  rw [tryAddRecords, eventsOfRecords_map_name, hnames, ← eventsOfRecords_map_name, ← tryAddRecords]

end EventSet

/-- **Strict and lenient intake agree.** Strict intake fails exactly when lenient intake would skip a
record, and then it reports the first record whose name is unknown and leaves the set as it was. When it
succeeds, it leaves the set that lenient intake leaves. Lenient intake puts the events that the known
names stand for behind the active ones, in the order of the records and for one cycle, changes nothing
else and accounts for every record. A batch may be taken in two parts, and the flags of the records have
no part in what either intake does or says. -/
theorem strict_and_lenient_intake_agree (set : EventSet) (records : List EventRecord) :
    ((∃ cause, (set.tryAddRecords records).value.2 = .error cause) ↔
        (set.addRecords records).value.2 ≠ 0) ∧
      (∀ cause, (set.tryAddRecords records).value.2 = .error cause ↔
        ∃ before record after, records = before ++ record :: after ∧
          (∀ earlier ∈ before, earlier.name ∈ Event.names) ∧ record.name ∉ Event.names ∧
          cause = .unknownEvent record.name) ∧
      (∀ cause, (set.tryAddRecords records).value.2 = .error cause →
        (set.tryAddRecords records).value.1 = set) ∧
      ((set.tryAddRecords records).value.2 = .ok () →
        (set.tryAddRecords records).value.1 = (set.addRecords records).value.1) ∧
      (∃ added, added.map Event.name =
          (records.map EventRecord.name).filter (fun text => text ∈ Event.names) ∧
        (set.addRecords records).value.1 = { set with active := set.active ++ added } ∧
        (set.addRecords records).value.2 + added.length = records.length) ∧
      (∀ more, (set.addRecords (records ++ more)).value =
        (((set.addRecords records).value.1.addRecords more).value.1,
          (set.addRecords records).value.2 +
            ((set.addRecords records).value.1.addRecords more).value.2)) ∧
      ∀ records', records'.map EventRecord.name = records.map EventRecord.name →
        set.addRecords records' = set.addRecords records ∧
          set.tryAddRecords records' = set.tryAddRecords records := by
  refine ⟨EventSet.exists_tryAddRecords_error_iff, fun _ => EventSet.tryAddRecords_eq_error_iff,
    fun _ => EventSet.tryAddRecords_of_error, EventSet.tryAddRecords_of_ok, ?_,
    set.value_addRecords_append records,
    fun _ hnames => ⟨set.addRecords_congr hnames, set.tryAddRecords_congr hnames⟩⟩
  refine ⟨knownEvents records, EventRecord.map_name_knownEvents records, ?_,
    set.skipped_add_length_knownEvents records⟩
  rw [EventSet.value_addRecords, EventSet.extend_unsticky]

/-- A set with a sticky event in its second cycle. -/
def warmSet : EventSet :=
  run (.ofRows fun _ => none) [.add .overheat true, .reset, .add .ldw false]

/-- Known names on both sides of an unknown one. -/
def mixedRecords : List EventRecord :=
  [⟨"fcw", .none⟩, ⟨"unheard", .none⟩, ⟨"ldw", .none⟩]

/-- The batch with an unknown name leaves no trace, and what it names is taken without it, whatever is
flagged. -/
theorem intake_of_mixedRecords :
    (warmSet.tryAddRecords mixedRecords).value.2 = .error (.unknownEvent "unheard") ∧
      (warmSet.tryAddRecords mixedRecords).value.1 = warmSet ∧
      (warmSet.addRecords mixedRecords).value.2 ≠ 0 ∧
      ((warmSet.tryAddRecords (mixedRecords.take 1)).value.2 = .ok () ∧
        (warmSet.tryAddRecords (mixedRecords.take 1)).value.1 =
          (warmSet.addRecords (mixedRecords.take 1)).value.1 ∧
        (warmSet.tryAddRecords (mixedRecords.take 1)).value.1.active = [.overheat, .ldw, .fcw]) ∧
      warmSet.tryAddRecords (mixedRecords.map fun record => ⟨record.name, ⟨fun _ => true⟩⟩) =
        warmSet.tryAddRecords mixedRecords := by
  obtain ⟨hskips, hfirst, hkept, -, -, -, hflags⟩ :=
    strict_and_lenient_intake_agree warmSet mixedRecords
  obtain ⟨-, -, -, hsame, -⟩ := strict_and_lenient_intake_agree warmSet (mixedRecords.take 1)
  have herror : (warmSet.tryAddRecords mixedRecords).value.2 = .error (.unknownEvent "unheard") :=
    (hfirst _).mpr ⟨[⟨"fcw", .none⟩], ⟨"unheard", .none⟩, [⟨"ldw", .none⟩], rfl, by decide,
      by decide, rfl⟩
  have hok : (warmSet.tryAddRecords (mixedRecords.take 1)).value.2 = .ok () := rfl
  exact ⟨herror, hkept _ herror, hskips.mp ⟨_, herror⟩, ⟨hok, hsame hok, by decide⟩,
    (hflags _ (by decide)).2⟩

end DriverAlerts
