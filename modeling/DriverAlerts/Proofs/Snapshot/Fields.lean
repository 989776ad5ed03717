import DriverAlerts.Proofs.Json.Members
import DriverAlerts.Snapshot
/-!
# Fields of snapshots

Flags, event records and snapshots are records whose fields all have to be there, so what is read of
one is told field by field.
-/

namespace DriverAlerts

open Json (ReadsBy FieldReader bind_eq_ok_iff)

namespace CategoryFlags

def readers : List (FieldReader CategoryFlags) :=
  Category.all.map fun category =>
    (category.name, fun value flags => Json.boolean value = .ok (flags.get category))

theorem readers_names : readers.map Prod.fst = fields := by
  rw [readers, List.map_map]
  rfl

theorem fst_of_flag {found : Json.Entries} {category : Category} {flag : Category × Bool}
    (h : (do return (category, ← found.required category.name Json.boolean) :
      Except Json.Error (Category × Bool)) = .ok flag) : flag.1 = category := by
  obtain ⟨b, -, hflag⟩ := bind_eq_ok_iff.mp h
  cases hflag
  rfl

theorem readsBy_readers : ReadsBy decode readers := by
  intro json flags
  rw [readers_names, decode, bind_eq_ok_iff]
  refine exists_congr fun found => and_congr_right fun _ => ?_
  rw [readers, List.forall_mem_map]
  simp only [← Json.Entries.required_eq_ok_iff]
  constructor
  · intro hread category hcategory
    rw [bind_eq_ok_iff] at hread
    obtain ⟨values, hvalues, hflags⟩ := hread
    obtain ⟨value, hlookup, hvalue⟩ := Json.lookup_of_mapM (fun _ _ h => fst_of_flag h) hvalues
      hcategory
    obtain ⟨_, hflag, hpair⟩ := bind_eq_ok_iff.mp hvalue
    cases hpair
    have hget : flags.get category = value := by
      rw [← Except.ok.inj hflags]
      dsimp only
      rw [hlookup, Option.getD_some]
    rw [hget, hflag]
  · intro hread
    have hvalues : ∀ category ∈ Category.all, (do
        return (category, ← found.required category.name Json.boolean) :
          Except Json.Error (Category × Bool)) = .ok (category, flags.get category) := by
      intro category hcategory
      rw [hread category hcategory]
      rfl
    have hget : ∀ category, ((Category.all.map fun category =>
        (category, flags.get category)).lookup category).getD false = flags.get category := by
      intro category
      have hvalue := lookup_map_of_injective Function.injective_id flags.get category.mem_all
      exact congrArg (Option.getD · false) hvalue
    rw [Json.mapM_eq_ok hvalues, Json.ok_bind]
    simp only [hget]
    rfl

end CategoryFlags

namespace EventRecord

def readers : List (FieldReader EventRecord) := [
  ("name", fun value record => Json.text value = .ok record.name),
  ("flags", fun value record => CategoryFlags.decode value = .ok record.flags)]

theorem readsBy_readers : ReadsBy decode readers := by
  intro json record
  rw [decode, bind_eq_ok_iff]
  refine exists_congr fun found => and_congr_right fun _ => ?_
  simp only [readers, List.forall_mem_cons, ← Json.Entries.required_eq_ok_iff, bind_eq_ok_iff]
  constructor
  · rintro ⟨name, hname, flags, hflags, hrecord⟩
    cases hrecord
    exact ⟨hname, hflags, List.forall_mem_nil _⟩
  · rintro ⟨hname, hflags, -⟩
    exact ⟨_, hname, _, hflags, rfl⟩

end EventRecord

namespace Snapshot

def readers : List (FieldReader Snapshot) := [
  ("captured_at", fun value snapshot => timestamp value = .ok snapshot.capturedAt),
  ("cycle", fun value snapshot => cycleNumber value = .ok snapshot.cycle),
  ("table_fingerprint", fun value snapshot => Json.text value = .ok snapshot.fingerprint),
  ("records", fun value snapshot =>
    Json.list EventRecord.decode value = .ok snapshot.records)]

theorem readsBy_readers : ReadsBy decode readers := by
  intro json snapshot
  rw [decode, bind_eq_ok_iff]
  refine exists_congr fun found => and_congr_right fun _ => ?_
  simp only [readers, List.forall_mem_cons, ← Json.Entries.required_eq_ok_iff, bind_eq_ok_iff]
  constructor
  · rintro ⟨capturedAt, hcapturedAt, cycle, hcycle, fingerprint, hfingerprint, records, hrecords,
      hsnapshot⟩
    cases hsnapshot
    exact ⟨hcapturedAt, hcycle, hfingerprint, hrecords, List.forall_mem_nil _⟩
  · rintro ⟨hcapturedAt, hcycle, hfingerprint, hrecords, -⟩
    exact ⟨_, hcapturedAt, _, hcycle, _, hfingerprint, _, hrecords, rfl⟩

end Snapshot

end DriverAlerts
