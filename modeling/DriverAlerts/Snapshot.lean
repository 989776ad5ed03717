import DriverAlerts.Json.Writer
import DriverAlerts.Record
import DriverAlerts.Timestamp.Text
/-!
# Snapshots

A snapshot is what one process publishes of a cycle: the records of its active events, when they were
taken, in which cycle, and the digest of the table that classified them. A reader with a table of the
same layout can rely on the flags.
-/

namespace DriverAlerts

/-- The records of one cycle. -/
structure Snapshot where
  capturedAt : Timestamp
  cycle : UInt64
  fingerprint : String
  records : List EventRecord

namespace Snapshot

def fields : List String :=
  ["captured_at", "cycle", "table_fingerprint", "records"]

def timestamp : Json.Decoder Timestamp := fun json => do
  match Timestamp.ofText? (← Json.text json) with
  | some t => return t
  | none => .error (.expected "a timestamp")

def cycleNumber : Json.Decoder UInt64 := fun json =>
  UInt64.ofNat <$> Json.natural (UInt64.size - 1) json

def decode : Json.Decoder Snapshot := fun json => do
  let entries ← Json.entries fields json
  return {
    capturedAt := ← entries.required "captured_at" timestamp
    cycle := ← entries.required "cycle" cycleNumber
    fingerprint := ← entries.required "table_fingerprint" Json.text
    records := ← entries.required "records" (Json.list EventRecord.decode) }

def toJsonValue (snapshot : Snapshot) : Json :=
  .record [
    ("captured_at", .ofString snapshot.capturedAt.toText),
    ("cycle", .ofNat snapshot.cycle.toNat),
    ("table_fingerprint", .ofString snapshot.fingerprint),
    ("records", .array (snapshot.records.map EventRecord.toJson))]

/-- A snapshot on one line. -/
def toJson (snapshot : Snapshot) : String :=
  snapshot.toJsonValue.compact

def ofJson (json : String) : Except RecordError Snapshot :=
  match Json.decodeText decode json with
  | .ok snapshot => .ok snapshot
  | .error cause => .error (.deserializationFailed cause.message)

/-- Checks that a table has the layout of the sender's. -/
def verify (snapshot : Snapshot) (table : Table) : Except RecordError Unit :=
  if snapshot.fingerprint = table.fingerprint then .ok ()
  else .error (.fingerprintMismatch table.fingerprint snapshot.fingerprint)

/-- Some record flags the category. -/
def hasCategory (snapshot : Snapshot) (category : Category) : Bool :=
  snapshot.records.any fun record => record.flags.get category

end Snapshot

end DriverAlerts
