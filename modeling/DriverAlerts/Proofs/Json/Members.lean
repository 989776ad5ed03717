import DriverAlerts.Proofs.Json.Decode
/-!
# Records field by field

A record whose fields all have to be there is read from an object exactly when every member of the
object has a name, every field has one member, and the values of these members are read. From an array
it is read exactly when there are as many items as fields and each item is read as its field. So the
order of members and the members that no field is named for have no part in what is read, and a record
is not read both from an object and from the same object with one member more that has the name of a
field, or no name.

A value stands inside other values, and how these are read depends on it only by how it is read itself.
-/

namespace DriverAlerts.Json

/-- The members of an object, in their order. -/
abbrev Members := List (Option String × Json)

/-- The name of a field and, of a value, whether it is read as the field of a record. -/
abbrev FieldReader (α : Type) := String × (Json → α → Prop)

/-- A record is read field by field, and every field has to be there. -/
def ReadsBy {α : Type} (decode : Decoder α) (readers : List (FieldReader α)) : Prop :=
  ∀ json a, decode json = .ok a ↔ ∃ found, entries (readers.map Prod.fst) json = .ok found ∧
    ∀ reader ∈ readers, ∃ value, found.entry reader.1 = .given value ∧ reader.2 value a

theorem Entries.required_eq_ok_iff {α : Type} {found : Entries} {name : String} {decode : Decoder α}
    {a : α} : found.required name decode = .ok a ↔
      ∃ value, found.entry name = .given value ∧ decode value = .ok a := by
  rw [required]
  cases found.entry name <;> simp

theorem Entries.entry_cons_self (name : String) (entry : Entry) (found : Entries) :
    Entries.entry ((name, entry) :: found) name = entry := by
  rw [Entries.entry, List.lookup_cons_self, Option.getD_some]

theorem Entries.entry_cons_of_ne {name other : String} (hne : name ≠ other) (entry : Entry)
    (found : Entries) : Entries.entry ((other, entry) :: found) name = found.entry name := by
  rw [Entries.entry, List.lookup_cons, beq_false_of_ne hne, Entries.entry]

/-! ### Keyed results -/

section Keyed

variable {κ β : Type} [BEq κ] [LawfulBEq κ] {f : κ → Except Error (κ × β)}
  (hkey : ∀ key entry, f key = .ok entry → entry.1 = key)
include hkey

/-- What is listed by key is found by key. -/
theorem lookup_of_mapM {keys : List κ} {entries : List (κ × β)} (h : keys.mapM f = .ok entries)
    {key : κ} (hmem : key ∈ keys) :
    ∃ value, entries.lookup key = some value ∧ f key = .ok (key, value) := by
  induction keys generalizing entries with
  | nil => cases hmem
  | cons first keys ih =>
      rw [mapM_eq_ok_iff, List.forall₂_cons_left_iff] at h
      obtain ⟨⟨other, value⟩, rest, hfirst, hrest, rfl⟩ := h
      obtain rfl : other = first := hkey _ _ hfirst
      by_cases hsame : key = other
      · subst hsame
        exact ⟨value, List.lookup_cons_self, hfirst⟩
      · rw [List.lookup_cons, beq_false_of_ne hsame]
        exact ih (mapM_eq_ok_iff.mpr hrest) ((List.mem_cons.mp hmem).resolve_left hsame)

end Keyed

theorem exists_mapM {α β : Type} {f : α → Except Error β} {items : List α}
    (h : ∀ item ∈ items, ∃ value, f item = .ok value) : ∃ values, items.mapM f = .ok values := by
  induction items with
  | nil => exact ⟨[], rfl⟩
  | cons item items ih =>
      rw [List.forall_mem_cons] at h
      obtain ⟨⟨value, hvalue⟩, hrest⟩ := h
      obtain ⟨values, hvalues⟩ := ih hrest
      exact ⟨value :: values, by rw [List.mapM_cons, hvalue, hvalues]; rfl⟩

/-! ### From an object -/

theorem namedMembers_eq_ok_iff {members : Members} {named : List (String × Json)} :
    namedMembers members = .ok named ↔ members = named.map fun (name, value) => (some name, value) := by
  constructor
  · intro h
    induction members generalizing named with
    | nil =>
        cases h
        rfl
    | cons member members ih =>
        obtain ⟨_ | name, value⟩ := member
        · cases h
        · rw [namedMembers, bind_eq_ok_iff] at h
          obtain ⟨rest, hrest, hnamed⟩ := h
          cases hnamed
          rw [List.map_cons, ← ih hrest]
  · rintro rfl
    exact namedMembers_map named

theorem exists_namedMembers_iff {members : Members} :
    (∃ named, namedMembers members = .ok named) ↔ none ∉ members.map Prod.fst := by
  induction members with
  | nil => exact iff_of_true ⟨[], rfl⟩ List.not_mem_nil
  | cons member members ih =>
      obtain ⟨_ | name, value⟩ := member
      · refine iff_of_false ?_ (not_not_intro List.mem_cons_self)
        rintro ⟨named, h⟩
        cases h
      · rw [List.map_cons, List.mem_cons, not_or, ← ih]
        constructor
        · rintro ⟨named, h⟩
          rw [namedMembers, bind_eq_ok_iff] at h
          obtain ⟨rest, hrest, -⟩ := h
          exact ⟨(Option.some_ne_none name).symm, rest, hrest⟩
        · rintro ⟨-, rest, hrest⟩
          exact ⟨(name, value) :: rest, by rw [namedMembers, hrest]; rfl⟩

theorem fst_of_memberEntry {named : List (String × Json)} {name : String} {entry : String × Entry}
    (h : memberEntry named name = .ok entry) : entry.1 = name := by
  rw [memberEntry] at h
  split at h <;> cases h <;> rfl

/-- What is found for a field is the only member of its name. -/
theorem memberEntry_eq_given_iff {members : Members} {named : List (String × Json)}
    (hnamed : namedMembers members = .ok named) {name : String} {value : Json} :
    memberEntry named name = .ok (name, .given value) ↔
      members.filter (·.1 == some name) = [(some name, value)] := by
  have hfilter : members.filter (·.1 == some name) =
      (named.filter (·.1 == name)).map fun (name, value) => (some name, value) := by
    rw [namedMembers_eq_ok_iff.mp hnamed, List.filter_map]
    rfl
  have hname : ∀ member ∈ named.filter (·.1 == name), member.1 = name := by
    intro member hmember
    exact eq_of_beq (List.mem_filter.mp hmember).2
  rw [hfilter, memberEntry]
  cases hfound : named.filter (·.1 == name) with
  | nil => simp
  | cons member others =>
      obtain ⟨other, found⟩ := member
      obtain rfl : other = name := hname (other, found) (hfound ▸ List.mem_cons_self)
      cases others <;> simp

section ReadsBy

variable {α : Type} {decode : Decoder α} {readers : List (FieldReader α)}
  (h : ReadsBy decode readers)
include h

theorem ReadsBy.object_iff {members : Members} {a : α} :
    decode (.object members) = .ok a ↔ none ∉ members.map Prod.fst ∧
      ∀ reader ∈ readers, ∃ value,
        members.filter (·.1 == some reader.1) = [(some reader.1, value)] ∧ reader.2 value a := by
  rw [h, ← exists_namedMembers_iff]
  simp only [entries, bind_eq_ok_iff]
  constructor
  · rintro ⟨found, ⟨named, hnamed, hfound⟩, hread⟩
    refine ⟨⟨named, hnamed⟩, fun reader hreader => ?_⟩
    obtain ⟨value, hgiven, hvalue⟩ := hread reader hreader
    obtain ⟨entry, hlookup, hentry⟩ := lookup_of_mapM (fun _ _ => fst_of_memberEntry) hfound
      (List.mem_map_of_mem hreader)
    rw [Entries.entry, hlookup, Option.getD_some] at hgiven
    rw [hgiven, memberEntry_eq_given_iff hnamed] at hentry
    exact ⟨value, hentry, hvalue⟩
  · rintro ⟨⟨named, hnamed⟩, hread⟩
    have hentry : ∀ name ∈ readers.map Prod.fst, ∃ entry, memberEntry named name = .ok entry := by
      rw [List.forall_mem_map]
      intro reader hreader
      obtain ⟨value, hvalue, -⟩ := hread reader hreader
      exact ⟨_, (memberEntry_eq_given_iff hnamed).mpr hvalue⟩
    obtain ⟨found, hfound⟩ := exists_mapM hentry
    refine ⟨found, ⟨named, hnamed, hfound⟩, fun reader hreader => ?_⟩
    obtain ⟨value, hvalue, hread⟩ := hread reader hreader
    obtain ⟨entry, hlookup, hentry⟩ := lookup_of_mapM (fun _ _ => fst_of_memberEntry) hfound
      (List.mem_map_of_mem hreader)
    rw [← memberEntry_eq_given_iff hnamed, hentry] at hvalue
    cases hvalue
    exact ⟨value, by rw [Entries.entry, hlookup]; rfl, hread⟩

omit h in
theorem given_itemEntries_iff (hnodup : (readers.map Prod.fst).Nodup) {items : List Json} {a : α} :
    (items.length ≤ readers.length ∧ ∀ reader ∈ readers, ∃ value,
      (itemEntries (readers.map Prod.fst) items).entry reader.1 = .given value ∧
        reader.2 value a) ↔
      List.Forall₂ (fun item reader => reader.2 item a) items readers := by
  induction readers generalizing items with
  | nil => simp [List.length_eq_zero_iff]
  | cons reader readers ih =>
      rw [List.map_cons, List.nodup_cons] at hnodup
      cases items with
      | nil =>
          refine iff_of_false ?_ (fun hread => by cases hread)
          rintro ⟨-, hread⟩
          obtain ⟨value, hgiven, -⟩ := hread reader List.mem_cons_self
          rw [List.map_cons, itemEntries, Entries.entry_cons_self] at hgiven
          cases hgiven
      | cons item items =>
          -- The names differ, so the entries of the other fields are those of the other items.
          have hothers : ∀ other ∈ readers, Entries.entry ((reader.1, .given item) ::
              itemEntries (readers.map Prod.fst) items) other.1 =
                (itemEntries (readers.map Prod.fst) items).entry other.1 := by
            intro other hother
            apply Entries.entry_cons_of_ne
            intro hsame
            exact hnodup.1 (hsame ▸ List.mem_map_of_mem hother)
          rw [List.map_cons, itemEntries, List.forall_mem_cons, Entries.entry_cons_self,
            List.forall₂_cons, ← ih hnodup.2]
          constructor
          · rintro ⟨hlength, ⟨value, hgiven, hread⟩, hrest⟩
            cases hgiven
            refine ⟨hread, Nat.le_of_succ_le_succ hlength, fun other hother => ?_⟩
            rw [← hothers other hother]
            exact hrest other hother
          · rintro ⟨hread, hlength, hrest⟩
            refine ⟨Nat.succ_le_succ hlength, ⟨item, rfl, hread⟩, fun other hother => ?_⟩
            rw [hothers other hother]
            exact hrest other hother

theorem ReadsBy.array_iff (hnodup : (readers.map Prod.fst).Nodup) {items : List Json} {a : α} :
    decode (.array items) = .ok a ↔
      List.Forall₂ (fun item reader => reader.2 item a) items readers := by
  rw [h, ← given_itemEntries_iff hnodup, entries, List.length_map]
  split_ifs with hlength
  · refine iff_of_false ?_ (fun hread => absurd hread.1 (Nat.not_le_of_lt hlength))
    rintro ⟨found, hfound, -⟩
    cases hfound
  · constructor
    · rintro ⟨found, hfound, hread⟩
      cases hfound
      exact ⟨Nat.le_of_not_lt hlength, hread⟩
    · exact fun hread => ⟨_, rfl, hread.2⟩

end ReadsBy

end DriverAlerts.Json
