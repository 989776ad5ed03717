import DriverAlerts.Proofs.Json.Edits
import DriverAlerts.Proofs.Snapshot.Codec
/-!
# Snapshots of newer senders

The text of a snapshot has objects on three levels: the snapshot itself, its records, and the flags of
each record. A newer sender may write the members of any of them in another order and add members of
its own, and whoever reads the text notices nothing of it. A text that lacks a member which is read,
or gives it twice, is refused, so a truncated record never passes for one without flags. The names of
all members, known or not, have to be texts.
-/

namespace DriverAlerts

open Json (Members Unnoticed Fatal InObject AtField AtItem ReadAlike NotBothRead)

/-- An edit of the members of an object, given the fields that the object is read for. -/
abbrev MemberEdit := List String → Members → Members → Prop

variable {value value' : Json}

/-- A flags object is edited. -/
def CategoryFlags.Edited (edit : MemberEdit) : Json → Json → Prop :=
  InObject (edit fields)

/-- A record object or its flags object is edited. -/
def EventRecord.Edited (edit : MemberEdit) (value value' : Json) : Prop :=
  InObject (edit fields) value value' ∨
    AtField fields "flags" (CategoryFlags.Edited edit) value value'

/-- The snapshot object is edited, or one of its record objects or one of their flags objects. -/
def Snapshot.Edited (edit : MemberEdit) (value value' : Json) : Prop :=
  InObject (edit fields) value value' ∨
    AtField fields "records" (AtItem (EventRecord.Edited edit)) value value'

/-! ### Edits that are not noticed -/

theorem CategoryFlags.readAlike_of_edited (h : CategoryFlags.Edited Unnoticed value value') :
    ReadAlike decode value value' := by
  rw [Edited, ← readers_names] at h
  exact readsBy_readers.readAlike_of_unnoticed h

theorem EventRecord.readAlike_of_edited (h : EventRecord.Edited Unnoticed value value') :
    ReadAlike decode value value' := by
  rcases h with hrecord | hflags
  · exact readsBy_readers.readAlike_of_unnoticed hrecord
  · refine readsBy_readers.readAlike_atField (by decide) ?_ hflags
    intro flags flags' hedit
    simp [readers, CategoryFlags.readAlike_of_edited hedit _]

theorem Snapshot.readAlike_of_edited (h : Snapshot.Edited Unnoticed value value') :
    ReadAlike decode value value' := by
  rcases h with hsnapshot | hrecords
  · exact readsBy_readers.readAlike_of_unnoticed hsnapshot
  · refine readsBy_readers.readAlike_atField (by decide) ?_ hrecords
    intro records records' hedit
    have hlist := Json.readAlike_atItem hedit fun _ _ => EventRecord.readAlike_of_edited
    simp [readers, hlist _]

theorem Snapshot.readAlike_of_edits
    (h : Relation.ReflTransGen (Snapshot.Edited Unnoticed) value value') :
    ReadAlike decode value value' := by
  induction h with
  | refl => exact fun snapshot => Iff.rfl
  | tail _ hedit ih =>
      exact fun snapshot => (ih snapshot).trans (readAlike_of_edited hedit snapshot)

/-! ### Edits that are fatal -/

theorem CategoryFlags.notBothRead_of_edited (h : CategoryFlags.Edited Fatal value value') :
    NotBothRead decode value value' := by
  rw [Edited, ← readers_names] at h
  exact readsBy_readers.notBothRead_of_fatal h

theorem EventRecord.notBothRead_of_edited (h : EventRecord.Edited Fatal value value') :
    NotBothRead decode value value' := by
  rcases h with hrecord | hflags
  · exact readsBy_readers.notBothRead_of_fatal hrecord
  · refine readsBy_readers.notBothRead_atField (by decide) (by decide) ?_ hflags
    intro flags flags' hedit
    have hnot := CategoryFlags.notBothRead_of_edited hedit
    simpa [readers] using fun record other : EventRecord => hnot record.flags other.flags

theorem Snapshot.notBothRead_of_edited (h : Snapshot.Edited Fatal value value') :
    NotBothRead decode value value' := by
  rcases h with hsnapshot | hrecords
  · exact readsBy_readers.notBothRead_of_fatal hsnapshot
  · refine readsBy_readers.notBothRead_atField (by decide) (by decide) ?_ hrecords
    intro records records' hedit
    have hnot := Json.notBothRead_atItem hedit fun _ _ => EventRecord.notBothRead_of_edited
    simpa [readers] using fun snapshot other : Snapshot => hnot snapshot.records other.records

/-! ### Texts -/

theorem Snapshot.ofJson_eq_ok_iff {text : String} (htext : Json.ofText? text = some value)
    {snapshot : Snapshot} : ofJson text = .ok snapshot ↔ decode value = .ok snapshot := by
  have hdecode : Json.decodeText decode text = decode value := by rw [Json.decodeText, htext]
  rw [ofJson, hdecode]
  cases decode value <;> simp

theorem Snapshot.ofJson_ok_or_error (text : String) :
    (∃ snapshot, ofJson text = .ok snapshot) ∨
      ∃ reason, ofJson text = .error (.deserializationFailed reason) := by
  rw [ofJson]
  cases Json.decodeText decode text with
  | ok snapshot => exact .inl ⟨snapshot, rfl⟩
  | error cause => exact .inr ⟨cause.message, rfl⟩

/-- **Members in another order and members that are not known change nothing.** Two texts that differ
by any number of such edits, in the snapshot, its records and their flags, are read as the same
snapshot, or both are refused. A text that is accepted is refused once a member that is read is removed
or repeated, wherever it stands, or a member is put in whose name is not a text. -/
theorem snapshot_reading_ignores_order_and_unknown_members :
    (∀ text text' value value',
      Json.ofText? text = some value → Json.ofText? text' = some value' →
      Relation.ReflTransGen (Snapshot.Edited Unnoticed) value value' →
      (∃ snapshot, Snapshot.ofJson text = .ok snapshot ∧ Snapshot.ofJson text' = .ok snapshot) ∨
      ∃ reason reason', Snapshot.ofJson text = .error (.deserializationFailed reason) ∧
        Snapshot.ofJson text' = .error (.deserializationFailed reason')) ∧
    ∀ text text' value value' snapshot,
      Json.ofText? text = some value → Json.ofText? text' = some value' →
      Snapshot.Edited Fatal value value' → Snapshot.ofJson text = .ok snapshot →
      ∃ reason, Snapshot.ofJson text' = .error (.deserializationFailed reason) := by
  constructor
  · intro text text' value value' htext htext' hedits
    have halike : ∀ snapshot, Snapshot.ofJson text = .ok snapshot ↔
        Snapshot.ofJson text' = .ok snapshot := by
      intro snapshot
      rw [Snapshot.ofJson_eq_ok_iff htext, Snapshot.ofJson_eq_ok_iff htext']
      exact Snapshot.readAlike_of_edits hedits snapshot
    rcases Snapshot.ofJson_ok_or_error text with ⟨snapshot, hread⟩ | ⟨reason, herror⟩
    · exact .inl ⟨snapshot, hread, (halike snapshot).mp hread⟩
    · rcases Snapshot.ofJson_ok_or_error text' with ⟨snapshot, hread⟩ | ⟨reason', herror'⟩
      · exact .inl ⟨snapshot, (halike snapshot).mpr hread, hread⟩
      · exact .inr ⟨reason, reason', herror, herror'⟩
  · intro text text' value value' snapshot htext htext' hedit hread
    rw [Snapshot.ofJson_eq_ok_iff htext] at hread
    refine (Snapshot.ofJson_ok_or_error text').resolve_left ?_
    rintro ⟨other, hother⟩
    rw [Snapshot.ofJson_eq_ok_iff htext'] at hother
    exact Snapshot.notBothRead_of_edited hedit snapshot other hread hother

/-- A warning. -/
def warned : Snapshot :=
  ⟨.epoch, 7, "ab", [⟨"FCW", ⟨fun category => category = .warning⟩⟩]⟩

def warnedFlags : Members :=
  Category.all.map fun category => (some category.name, .bool (category = .warning))

/-- The members of a snapshot object, with these records. -/
def membersAround (records : List Json) : Members := [
  (some "captured_at", .ofString "1970-01-01T00:00:00Z"),
  (some "cycle", .ofNat 7),
  (some "table_fingerprint", .ofString "ab"),
  (some "records", .array records)]

/-- The flags of a newer sender start with a member of its own. -/
def urgentFlags (flags : Members) : Json :=
  .object ((some "urgency", .array [.ofNat 2, .object [(some "warning", .null)]]) :: flags)

/-- A newer sender writes everything but the flags from the end, and its format last. -/
def newerRecord (flags : Members) : Json :=
  .object [(some "flags", urgentFlags flags), (some "name", .ofString "FCW")]

def newerValue (flags : Members) : Json :=
  .object ((some "format", .ofNat 2) :: membersAround [newerRecord flags]).reverse

theorem legible_newerValue {flags : Members} (hflags : flags ⊆ warnedFlags) :
    (newerValue flags).Legible := by
  have hlegible : ∀ member ∈ flags, (Token.string member.1).Legible ∧ member.2.Legible := by
    intro member hmember
    obtain ⟨category, -, rfl⟩ := List.mem_map.mp (hflags hmember)
    exact ⟨by simp [Token.Legible], Json.legible_bool _⟩
  have hurgent : (urgentFlags flags).Legible := by
    rw [urgentFlags, Json.legible_object, List.forall_mem_cons]
    refine ⟨⟨by simp [Token.Legible], ?_⟩, hlegible⟩
    simp [Json.legible_array, Json.legible_object, Json.ofNat, Json.legible_number,
      Json.legible_null, Token.Legible]
  simp [newerValue, newerRecord, membersAround, hurgent, Json.legible_object, Json.legible_array,
    Json.legible_ofString, Json.ofNat, Json.legible_number, Token.Legible]

theorem edits_newerValue :
    Relation.ReflTransGen (Snapshot.Edited Unnoticed) warned.toJsonValue
      (newerValue warnedFlags) := by
  have hflags : Snapshot.Edited Unnoticed warned.toJsonValue (.object (membersAround [.object
      [(some "name", .ofString "FCW"), (some "flags", urgentFlags warnedFlags)]])) :=
    .inr (.member [_, _, _] [] (.intro [] [] (.inr (.member [_] []
      ⟨.extended [] "urgency" _ warnedFlags (by decide)⟩))))
  have hrecord : Snapshot.Edited Unnoticed _ (.object (membersAround [newerRecord warnedFlags])) :=
    .inr (.member [_, _, _] [] (.intro [] [] (.inl ⟨.reordered (.swap _ _ [])⟩)))
  have hformat : Snapshot.Edited Unnoticed _ _ :=
    .inl ⟨.extended [] "format" (.ofNat 2) (membersAround [newerRecord warnedFlags]) (by decide)⟩
  have horder : Snapshot.Edited Unnoticed _ (newerValue warnedFlags) :=
    .inl ⟨.reordered (List.reverse_perm _).symm⟩
  exact .tail (.tail (.tail (.single hflags) hrecord) hformat) horder

theorem reading_of_newerValue :
    Snapshot.ofJson warned.toJson = .ok warned ∧
      Snapshot.ofJson (newerValue warnedFlags).compact = .ok warned ∧
      ∃ reason, Snapshot.ofJson (newerValue warnedFlags.dropLast).compact =
        .error (.deserializationFailed reason) := by
  obtain ⟨hsame, hfatal⟩ := snapshot_reading_ignores_order_and_unknown_members
  have hplain := Snapshot.ofJson_toJson warned
  have htext : Json.ofText? warned.toJson = some warned.toJsonValue :=
    Json.ofText?_compact warned.legible_toJsonValue
  have hnewerText := Json.ofText?_compact (legible_newerValue (List.Subset.refl warnedFlags))
  have htruncatedText := Json.ofText?_compact (legible_newerValue warnedFlags.dropLast_subset)
  have hnewer : Snapshot.ofJson (newerValue warnedFlags).compact = .ok warned := by
    rcases hsame _ _ _ _ htext hnewerText edits_newerValue with
      ⟨snapshot, hread, hread'⟩ | ⟨reason, -, herror, -⟩
    · rwa [Except.ok.inj (hplain.symm.trans hread)]
    · cases hplain.symm.trans herror
  refine ⟨hplain, hnewer, hfatal _ _ _ _ warned hnewerText htruncatedText ?_ hnewer⟩
  exact .inr (.member [] _ (.intro [] [] (.inr (.member [] _
    ⟨.removed (_ :: warnedFlags.dropLast) "permanent" _ [] (by decide)⟩))))

/-- A snapshot without records, and one member more, whose name is half of a pair. -/
def unnamedText : String :=
  "\x7b\"\\udfff\":null,\"captured_at\":\"1970-01-01T00:00:00Z\",\"cycle\":7," ++
    "\"table_fingerprint\":\"ab\",\"records\":[]\x7d"

/-- A name has to be a text. One that is none is not the name of a field, and still it is noticed. -/
theorem unnamed_member_is_noticed :
    Json.ofText? (⟨.epoch, 7, "ab", []⟩ : Snapshot).toJson = some (.object (membersAround [])) ∧
      Json.ofText? unnamedText = some (.object ((none, .null) :: membersAround [])) ∧
      Snapshot.ofJson (⟨.epoch, 7, "ab", []⟩ : Snapshot).toJson = .ok ⟨.epoch, 7, "ab", []⟩ ∧
      Snapshot.ofJson unnamedText =
        .error (.deserializationFailed Json.Error.nameWithoutText.message) := by
  have htext : Json.ofText? unnamedText =
      some (.object ((none, .null) :: membersAround [])) := by
    apply Json.ofText?_of_tokens
    decide +kernel
  refine ⟨Json.ofText?_compact (Snapshot.legible_toJsonValue _), htext, Snapshot.ofJson_toJson _, ?_⟩
  rw [Snapshot.ofJson, Json.decodeText, htext]
  rfl

end DriverAlerts
