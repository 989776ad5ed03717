import DriverAlerts.Json.Decode
import DriverAlerts.Proofs.Entries
import DriverAlerts.Proofs.Vocabulary
/-!
# Records read back

A record that names each of its members once has for every field just what its members give, so its
fields are decoded one by one and independently of their order.
-/

namespace DriverAlerts.Json

/-! ### Single values and lists -/

theorem natural_ofNat {limit n : Nat} (hn : n ≤ limit) : natural limit (ofNat n) = .ok n := by
  have hnatural : (Numeral.ofNat n).natural? = some n := by simp [Numeral.natural?, Numeral.ofNat]
  simp only [natural, ofNat, hnatural, if_pos hn]

theorem ok_bind {α β : Type} (a : α) (f : α → Except Error β) : (Except.ok a >>= f) = f a := rfl

theorem bind_eq_ok_iff {α β : Type} {x : Except Error α} {f : α → Except Error β} {b : β} :
    (x >>= f) = .ok b ↔ ∃ a, x = .ok a ∧ f a = .ok b := by
  cases x with
  | error cause =>
      refine iff_of_false (fun h => nomatch h) ?_
      rintro ⟨a, ha, -⟩
      exact nomatch ha
  | ok a =>
      rw [ok_bind]
      constructor
      · exact fun h => ⟨a, rfl, h⟩
      · rintro ⟨other, hother, h⟩
        rwa [Except.ok.inj hother]

theorem mapM_eq_ok {α β : Type} {f : α → Except Error β} {g : α → β} {items : List α}
    (hitems : ∀ item ∈ items, f item = .ok (g item)) : items.mapM f = .ok (items.map g) := by
  induction items with
  | nil => rfl
  | cons item items ih =>
      rw [List.forall_mem_cons] at hitems
      rw [List.mapM_cons, hitems.1, ih hitems.2]
      rfl

theorem mapM_eq_ok_iff {α β : Type} {f : α → Except Error β} {items : List α} {values : List β} :
    items.mapM f = .ok values ↔
      List.Forall₂ (fun item value => f item = .ok value) items values := by
  induction items generalizing values with
  | nil =>
      rw [List.mapM_nil, List.forall₂_nil_left_iff]
      constructor
      · exact fun h => (Except.ok.inj h).symm
      · exact fun h => congrArg Except.ok h.symm
  | cons item items ih =>
      rw [List.mapM_cons, bind_eq_ok_iff, List.forall₂_cons_left_iff]
      simp only [bind_eq_ok_iff, ih]
      constructor
      · rintro ⟨value, hvalue, rest, hrest, hvalues⟩
        exact ⟨value, rest, hvalue, hrest, (Except.ok.inj hvalues).symm⟩
      · rintro ⟨value, rest, hvalue, hrest, rfl⟩
        exact ⟨value, hvalue, rest, hrest, rfl⟩

theorem word_ofString {α : Type} [Named α] [LawfulNamed α] (w : α) :
    word α (ofString (Named.name w)) = .ok w := by
  rw [ofString, word, Named.ofName?_name]

theorem list_array {α : Type} {decode : Decoder α} {encode : α → Json} {items : List α}
    (hitems : ∀ item ∈ items, decode (encode item) = .ok item) :
    list decode (.array (items.map encode)) = .ok items := by
  have hall : items.mapM (decode ∘ encode) = .ok (items.map id) := mapM_eq_ok hitems
  rw [list, List.mapM_map, hall, List.map_id]

/-! ### Records -/

/-- What there is for a field with this member, if any. -/
def Entry.ofMember : Option Json → Entry
  | some value => .given value
  | none => .absent

/-- What a record with these members has for fields. -/
def Entries.ofMembers (names : List String) (members : List (String × Json)) : Entries :=
  names.map fun name => (name, .ofMember (members.lookup name))

theorem namedMembers_map (members : List (String × Json)) :
    namedMembers (members.map fun (name, value) => (some name, value)) = .ok members := by
  induction members with
  | nil => rfl
  | cons member members ih =>
      rw [List.map_cons, namedMembers, ih]
      rfl

section Record

variable {members : List (String × Json)} (hnodup : (members.map Prod.fst).Nodup)
include hnodup

theorem memberEntry_eq (name : String) :
    memberEntry members name = .ok (name, .ofMember (members.lookup name)) := by
  rw [memberEntry, filter_key hnodup]
  cases members.lookup name <;> rfl

/-- A record has what its members give, in whatever order they stand. -/
theorem entries_record (names : List String) :
    entries names (record members) = .ok (.ofMembers names members) := by
  rw [record, entries, namedMembers_map]
  exact mapM_eq_ok fun name _ => memberEntry_eq hnodup name

end Record

theorem Entries.entry_ofMembers {names : List String} {name : String} (hname : name ∈ names)
    (members : List (String × Json)) :
    (ofMembers names members).entry name = .ofMember (members.lookup name) := by
  rw [entry, ofMembers]
  have hlookup := lookup_map_of_injective Function.injective_id
    (fun name => Entry.ofMember (members.lookup name)) hname
  exact congrArg (Option.getD · .absent) hlookup

/-- A field that is there is decoded. -/
theorem Entries.required_ofMembers {α : Type} {names : List String} {name : String}
    (hname : name ∈ names) {members : List (String × Json)} {value : Json}
    (hvalue : members.lookup name = some value) (decode : Decoder α) :
    (ofMembers names members).required name decode = decode value := by
  rw [required, entry_ofMembers hname, hvalue]
  rfl

end DriverAlerts.Json
