import DriverAlerts.Proofs.Json.Decode
import DriverAlerts.Proofs.Json.Reader
import DriverAlerts.Proofs.Snapshot.Fields
import DriverAlerts.Proofs.Timestamp.Text
import DriverAlerts.Proofs.Vocabulary
import DriverAlerts.Snapshot
/-!
# Snapshots read back

A snapshot is written as nested records, none of which names a field twice, and every text in it has
a spelling. So its text gives back the value that was written, and that value gives back each field.
-/

namespace DriverAlerts

namespace CategoryFlags

/-- The members of the flags as they are written. -/
def members (flags : CategoryFlags) : List (String × Json) :=
  Category.all.map fun category => (category.name, .bool (flags.get category))

theorem nodup_members (flags : CategoryFlags) : (flags.members.map Prod.fst).Nodup := by
  rw [members, List.map_map]
  exact LawfulNamed.nodup_names (α := Category)

theorem legible_toJson (flags : CategoryFlags) : flags.toJson.Legible := by
  rw [toJson, Json.legible_record]
  intro member hmember
  obtain ⟨category, -, rfl⟩ := List.mem_map.mp hmember
  exact Json.legible_bool _

theorem lookup_members (flags : CategoryFlags) (category : Category) :
    flags.members.lookup category.name = some (.bool (flags.get category)) :=
  lookup_map_of_injective Named.name_injective (fun category => Json.bool (flags.get category))
    category.mem_all

theorem decode_toJson (flags : CategoryFlags) : decode flags.toJson = .ok flags := by
  have hentries : Json.entries fields flags.toJson = .ok (.ofMembers fields flags.members) :=
    Json.entries_record flags.nodup_members fields
  rw [readsBy_readers, readers_names]
  refine ⟨_, hentries, ?_⟩
  rw [readers, List.forall_mem_map]
  intro category hcategory
  have hfield : category.name ∈ fields := List.mem_map_of_mem hcategory
  refine ⟨.bool (flags.get category), ?_, rfl⟩
  rw [Json.Entries.entry_ofMembers hfield, flags.lookup_members category]
  rfl

end CategoryFlags

namespace EventRecord

theorem legible_toJson (record : EventRecord) : record.toJson.Legible := by
  rw [toJson, Json.legible_record]
  simp [Json.legible_ofString, CategoryFlags.legible_toJson]

theorem decode_toJson (record : EventRecord) : decode record.toJson = .ok record := by
  have hentries : Json.entries fields record.toJson = .ok (.ofMembers fields
      [("name", .ofString record.name), ("flags", record.flags.toJson)]) :=
    Json.entries_record (by simp) fields
  have hname : "name" ∈ fields := by simp [fields]
  have hflags : "flags" ∈ fields := by simp [fields]
  rw [decode, hentries, Json.ok_bind, Json.Entries.required_ofMembers hname rfl,
    Json.Entries.required_ofMembers hflags rfl, CategoryFlags.decode_toJson]
  rfl

end EventRecord

namespace Snapshot

theorem legible_toJsonValue (snapshot : Snapshot) : snapshot.toJsonValue.Legible := by
  rw [toJsonValue, Json.legible_record]
  have hrecords : (Json.array (snapshot.records.map EventRecord.toJson)).Legible := by
    rw [Json.legible_array]
    intro item hitem
    obtain ⟨record, -, rfl⟩ := List.mem_map.mp hitem
    exact record.legible_toJson
  simp [Json.legible_ofString, Json.ofNat, Json.legible_number, hrecords]

theorem timestamp_ofString (t : Timestamp) : timestamp (.ofString t.toText) = .ok t := by
  rw [timestamp, Json.ofString, Json.text, Json.ok_bind, Timestamp.ofText?_toText]
  rfl

theorem cycleNumber_ofNat (cycle : UInt64) : cycleNumber (.ofNat cycle.toNat) = .ok cycle := by
  have hcycle : cycle.toNat ≤ UInt64.size - 1 := Nat.le_sub_one_of_lt cycle.toNat_lt_size
  rw [cycleNumber, Json.natural_ofNat hcycle]
  change Except.ok (UInt64.ofNat cycle.toNat) = _
  rw [UInt64.ofNat_toNat]

theorem decode_toJsonValue (snapshot : Snapshot) : decode snapshot.toJsonValue = .ok snapshot := by
  have hentries : Json.entries fields snapshot.toJsonValue = .ok (.ofMembers fields [
      ("captured_at", .ofString snapshot.capturedAt.toText),
      ("cycle", .ofNat snapshot.cycle.toNat),
      ("table_fingerprint", .ofString snapshot.fingerprint),
      ("records", .array (snapshot.records.map EventRecord.toJson))]) :=
    Json.entries_record (by simp) fields
  have hcapturedAt : "captured_at" ∈ fields := by simp [fields]
  have hcycle : "cycle" ∈ fields := by simp [fields]
  have hfingerprint : "table_fingerprint" ∈ fields := by simp [fields]
  have hrecords : "records" ∈ fields := by simp [fields]
  rw [decode, hentries, Json.ok_bind, Json.Entries.required_ofMembers hcapturedAt rfl,
    Json.Entries.required_ofMembers hcycle rfl, Json.Entries.required_ofMembers hfingerprint rfl,
    Json.Entries.required_ofMembers hrecords rfl, timestamp_ofString, cycleNumber_ofNat,
    Json.list_array fun record _ => record.decode_toJson]
  rfl

/-- What is published can be read. -/
theorem ofJson_toJson (snapshot : Snapshot) : ofJson snapshot.toJson = .ok snapshot := by
  rw [ofJson, toJson, Json.decodeText, Json.ofText?_compact snapshot.legible_toJsonValue]
  simp only [decode_toJsonValue]

end Snapshot

/-- **The text of a snapshot is read as that snapshot.** So no two snapshots share a text, and a text
that is accepted in some other form, with blanks, members in another order or escapes that are not
needed, has one canonical form: it is read as the same snapshot, and all texts of that snapshot share
it. -/
theorem snapshot_text_round_trips :
    (∀ snapshot : Snapshot, Snapshot.ofJson snapshot.toJson = .ok snapshot) ∧
      Function.Injective Snapshot.toJson ∧
      ∀ text read, Snapshot.ofJson text = .ok read →
        Snapshot.ofJson read.toJson = .ok read ∧
          ∀ other value, Snapshot.ofJson other = .ok value →
            (value.toJson = read.toJson ↔ value = read) := by
  have hinjective : Function.Injective Snapshot.toJson := by
    intro first second htext
    have hread : (.ok first : Except RecordError Snapshot) = .ok second := by
      rw [← Snapshot.ofJson_toJson first, htext, Snapshot.ofJson_toJson]
    exact Except.ok.inj hread
  refine ⟨Snapshot.ofJson_toJson, hinjective, fun text read _ => ?_⟩
  exact ⟨read.ofJson_toJson, fun other value _ => hinjective.eq_iff⟩

/-- A text that no snapshot is written as: its members are out of order, one of them is unknown, its
letters are escaped, and its time is that of a leap second in a far year and another zone. -/
def liberalText : String :=
  "\x7b \"cycle\" : 18446744073709551615,\n \"note\" : [1.5e3, \x7b\"x\":null\x7d],\t" ++
    "\"captured_at\" : \"+12016-12-31t23:59:60.25+02:00\", " ++
    "\"table_fingerprint\" : \"\\u0061\\\"\\\\\\u0007\\ud83d\\ude00\", \"records\" : [] \x7d"

theorem round_trip_of_liberalText :
    ∃ read, Snapshot.ofJson liberalText = .ok read ∧
      read.capturedAt.toText = "+12016-12-31T21:59:60.250Z" ∧
      read.cycle = 18446744073709551615 ∧ read.fingerprint = "a\"\\\u0007😀" ∧
      Snapshot.ofJson read.toJson = .ok read ∧
      (⟨.epoch, 0, "", []⟩ : Snapshot).toJson ≠ read.toJson := by
  have hfields : (Snapshot.ofJson liberalText).toOption.map (fun snapshot =>
      (snapshot.capturedAt.toText, snapshot.cycle, snapshot.fingerprint)) =
        some ("+12016-12-31T21:59:60.250Z", 18446744073709551615, "a\"\\\u0007😀") := by
    decide +kernel
  obtain ⟨hwritten, -, haccepted⟩ := snapshot_text_round_trips
  cases hread : Snapshot.ofJson liberalText with
  | error cause =>
      rw [hread] at hfields
      exact absurd hfields (Option.some_ne_none _).symm
  | ok read =>
      obtain ⟨hcanonical, hunique⟩ := haccepted liberalText read hread
      simp only [hread, Except.toOption, Option.map_some, Option.some.injEq, Prod.mk.injEq]
        at hfields
      obtain ⟨hcapturedAt, hcycle, hfingerprint⟩ := hfields
      refine ⟨read, rfl, hcapturedAt, hcycle, hfingerprint, hcanonical, fun htext => ?_⟩
      have hsame := (hunique _ _ (hwritten ⟨.epoch, 0, "", []⟩)).mp htext
      rw [← hsame] at hcycle
      exact absurd hcycle (by decide)

end DriverAlerts
