import DriverAlerts.Proofs.EventSet.Persistence
import DriverAlerts.Proofs.Policy.Layout
import DriverAlerts.Proofs.Snapshot.Codec
/-!
# What a receiver makes of a snapshot

Published records name the active events in their order, and a receiver goes by the names alone: it
knows all of them, whatever the flags say. The flags are what the table of the sender says of each
event, so where the table of the receiver says the same, the receiver would publish these records
itself.
-/

namespace DriverAlerts

namespace EventRecord

variable {records : List EventRecord} {events : List Event}

theorem knownEvents_of_names (hnames : records.map name = events.map Event.name) :
    knownEvents records = events := by
  have hread : knownEvents records = (records.map name).filterMap Named.ofName? := by
    rw [List.filterMap_map]
    rfl
  have hname : Named.ofName? ∘ Event.name = some := funext Named.ofName?_name
  rw [hread, hnames, List.filterMap_map, hname, List.filterMap_some]

theorem isKnown_of_names (hnames : records.map name = events.map Event.name) {record : EventRecord}
    (hrecord : record ∈ records) : record.isKnown := by
  have hmem : record.name ∈ events.map Event.name := hnames ▸ List.mem_map_of_mem hrecord
  obtain ⟨event, -, hname⟩ := List.mem_map.mp hmem
  rw [isKnown, ← hname]
  exact Option.isSome_iff_exists.mpr ⟨event, Named.ofName?_name event⟩

theorem ofEvent_eq_of_sameLayout {left right : Table} (h : left.SameLayout right) :
    ofEvent left = ofEvent right := by
  funext event
  rw [ofEvent, ofEvent, CategoryFlags.ofEvent, CategoryFlags.ofEvent, funext (h event).2]

end EventRecord

namespace EventSet

variable {records : List EventRecord} {events : List Event}

theorem value_addRecords_of_names (hnames : records.map EventRecord.name = events.map Event.name)
    (set : EventSet) :
    (set.addRecords records).value = (set.extend (events.map fun event => ⟨event, false⟩), 0) := by
  have hcount : records.countP (fun record => !record.isKnown) = 0 := by
    rw [List.countP_eq_zero]
    intro record hrecord
    rw [EventRecord.isKnown_of_names hnames hrecord]
    decide
  rw [value_addRecords, EventRecord.knownEvents_of_names hnames, hcount]

theorem value_tryAddRecords_of_names (hnames : records.map EventRecord.name = events.map Event.name)
    (set : EventSet) :
    (set.tryAddRecords records).value =
      (set.extend (events.map fun event => ⟨event, false⟩), .ok ()) := by
  have hnone : (records.find? fun record => !record.isKnown) = none := by
    rw [List.find?_eq_none]
    intro record hrecord
    rw [EventRecord.isKnown_of_names hnames hrecord]
    decide
  rw [value_tryAddRecords, hnone, EventRecord.knownEvents_of_names hnames]

theorem value_ofRecords_of_names (hnames : records.map EventRecord.name = events.map Event.name)
    (table : Table) :
    (ofRecords table records).value =
      (new table).value.extend (events.map fun event => ⟨event, false⟩) := by
  rw [ofRecords, Logged.value_bind, Logged.value_bind, value_addRecords_of_names hnames]
  rfl

theorem active_ofRecords_of_names (hnames : records.map EventRecord.name = events.map Event.name)
    (table : Table) : (ofRecords table records).value.active = events := by
  rw [value_ofRecords_of_names hnames, active_extend, List.map_map]
  exact List.map_id events

theorem names_toRecords (set : EventSet) :
    set.toRecords.map EventRecord.name = set.active.map Event.name := by
  rw [toRecords, List.map_map]
  rfl

/-- What is said of a category by the set and by its records is the same. -/
theorem hasCategory_eq_any_toRecords (set : EventSet) (category : Category) :
    set.hasCategory category = set.toRecords.any fun record => record.flags.get category := by
  rw [hasCategory, toRecords, List.any_map]
  rfl

/-- Over a table of the same layout, the records of a set are those of the set that is made of them. -/
theorem toRecords_ofRecords_of_sameLayout {set : EventSet} {table : Table}
    (hlayout : set.table.SameLayout table) :
    (ofRecords table set.toRecords).value.toRecords = set.toRecords := by
  have hactive := active_ofRecords_of_names set.names_toRecords table
  have htable : (ofRecords table set.toRecords).value.table = table := by
    rw [value_ofRecords_of_names set.names_toRecords]
    rfl
  rw [toRecords, hactive, htable, toRecords, EventRecord.ofEvent_eq_of_sameLayout hlayout]

end EventSet

/-- **Sender and receiver agree.** The text of a snapshot is read, and any records with the names that
were read are taken by every event set, whole. Over any table they stand for the events that were
active at the sender, in the same order and as often, in a set that has completed no cycle and counts
none. If the digest tells the layouts of the two tables apart and the snapshot is verified by the table
of the receiver, sender, snapshot and receiver give the same answer for every category, and the
receiver would publish the records that it read. -/
theorem receiver_agrees_with_sender (sender receiver : Table) (commands : List Command)
    (capturedAt : Timestamp) :
    ∃ read, Snapshot.ofJson ((run sender commands).snapshot capturedAt).toJson = .ok read ∧
      (∀ records, records.map EventRecord.name = read.records.map EventRecord.name →
        (∀ set : EventSet, (set.addRecords records).value.2 = 0 ∧
          (set.tryAddRecords records).value = ((set.addRecords records).value.1, .ok ())) ∧
        (EventSet.ofRecords receiver records).value.active = (run sender commands).active ∧
        (EventSet.ofRecords receiver records).value.cycle = 0 ∧
        ∀ event, (EventSet.ofRecords receiver records).value.persistence event = 0) ∧
      (read.verify receiver = .ok () →
        (Blake3.hexDigest sender.layoutBytes = Blake3.hexDigest receiver.layoutBytes →
          sender.layoutBytes = receiver.layoutBytes) →
        (∀ category, (run sender commands).hasCategory category = read.hasCategory category ∧
          read.hasCategory category =
            (EventSet.ofRecords receiver read.records).value.hasCategory category) ∧
        (EventSet.ofRecords receiver read.records).value.toRecords = read.records) := by
  have hread := Snapshot.ofJson_toJson ((run sender commands).snapshot capturedAt)
  have hsent := EventSet.names_toRecords (run sender commands)
  refine ⟨_, hread, fun records hrecords => ?_, fun hverify hdigest => ?_⟩
  · -- Whatever the flags say, the names are those of the events that the sender had active.
    have hnames := hrecords.trans hsent
    refine ⟨fun set => ?_, EventSet.active_ofRecords_of_names hnames receiver, ?_, fun event => ?_⟩
    · rw [EventSet.value_addRecords_of_names hnames, EventSet.value_tryAddRecords_of_names hnames]
      exact ⟨rfl, rfl⟩
    · rw [EventSet.value_ofRecords_of_names hnames]
      rfl
    · rw [EventSet.value_ofRecords_of_names hnames, EventSet.persistence_extend]
      exact EventSet.persistence_new receiver event
  · have htable := table_run sender commands
    rw [verify_snapshot_eq_ok_iff (htable.symm ▸ hdigest)] at hverify
    have hreceived := EventSet.toRecords_ofRecords_of_sameLayout hverify
    refine ⟨fun category => ⟨?_, ?_⟩, hreceived⟩
    · exact EventSet.hasCategory_eq_any_toRecords _ category
    · rw [EventSet.hasCategory_eq_any_toRecords, EventSet.snapshot, hreceived]
      rfl

/-- A table with one row, whose only alert has the given text. -/
def overheatTable (text : String) : Table :=
  .ofRows fun event =>
    if event = .overheat then
      some (.ofSlots [(.permanent, .fixed (Presets.normalPermanent text ""))])
    else none

/-- A sticky event in its second cycle, together with an event that has no row. -/
def twiceHot : List Command :=
  [.add .overheat true, .reset, .add .stockFcw false, .add .overheat false]

theorem receiver_agrees_twiceHot :
    ∃ read, Snapshot.ofJson ((run (overheatTable "Overheat") twiceHot).snapshot .epoch).toJson =
        .ok read ∧
      read.verify (overheatTable "Hot") = .ok () ∧
      (EventSet.ofRecords (overheatTable "Hot")
        [⟨"overheat", .none⟩, ⟨"stockFcw", .none⟩, ⟨"overheat", .none⟩]).value.active =
          [.overheat, .stockFcw, .overheat] ∧
      read.hasCategory .permanent = true ∧
      (EventSet.ofRecords (overheatTable "Hot") read.records).value.hasCategory .permanent = true ∧
      (EventSet.ofRecords (overheatTable "Hot") read.records).value.toRecords = read.records := by
  obtain ⟨read, hread, hnames, hagree⟩ :=
    receiver_agrees_with_sender (overheatTable "Overheat") (overheatTable "Hot") twiceHot .epoch
  have hbytes : (overheatTable "Overheat").layoutBytes = (overheatTable "Hot").layoutBytes := by
    decide +kernel
  obtain rfl := Except.ok.inj (hread.symm.trans (Snapshot.ofJson_toJson _))
  have hverify : ((run (overheatTable "Overheat") twiceHot).snapshot .epoch).verify
      (overheatTable "Hot") = .ok () := by
    rw [verify_snapshot_eq_ok_iff, table_run]
    · exact Table.layoutBytes_eq_iff.mp hbytes
    · rw [table_run]
      exact fun _ => hbytes
  obtain ⟨hcategory, hrecords⟩ := hagree hverify fun _ => hbytes
  obtain ⟨hsent, hreceived⟩ := hcategory .permanent
  have hpermanent : (run (overheatTable "Overheat") twiceHot).hasCategory .permanent = true := by
    decide +kernel
  refine ⟨_, hread, hverify, (hnames _ ?_).2.1, hsent ▸ hpermanent, ?_, hrecords⟩
  · decide +kernel
  · rw [← hreceived, ← hsent, hpermanent]

end DriverAlerts
