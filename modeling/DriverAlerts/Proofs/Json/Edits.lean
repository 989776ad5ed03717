import DriverAlerts.Proofs.Json.Members
import Mathlib.Data.List.Forall2
import Mathlib.Data.List.Perm.Basic
/-!
# Edits that a reader notices

The members of one object are edited, and what the edit does to the reading of that object is carried
to the values around it: to a record that has the object in one of its fields, and to a list that has
it among its items. Some edits are not noticed at all. Others are fatal, so that what was read before
is not read any more.
-/

namespace DriverAlerts.Json

/-! ### Edits and places -/

/-- The members stand in another order, or there is one more, which no field is named for. -/
inductive Unnoticed (fields : List String) : Members → Members → Prop
  | reordered {members members' : Members} (hperm : members.Perm members') :
    Unnoticed fields members members'
  | extended (before : Members) (name : String) (value : Json) (after : Members)
      (hname : name ∉ fields) :
    Unnoticed fields (before ++ after) (before ++ (some name, value) :: after)

/-- The member of a field is missing, or there is one more, which has the name of a field or no text
for a name. -/
inductive Fatal (fields : List String) : Members → Members → Prop
  | removed (before : Members) (name : String) (value : Json) (after : Members)
      (hname : name ∈ fields) :
    Fatal fields (before ++ (some name, value) :: after) (before ++ after)
  | repeated (before : Members) (name : String) (value : Json) (after : Members)
      (hname : name ∈ fields) :
    Fatal fields (before ++ after) (before ++ (some name, value) :: after)
  | unnamed (before : Members) (value : Json) (after : Members) :
    Fatal fields (before ++ after) (before ++ (none, value) :: after)

/-- The members of the object are edited. -/
inductive InObject (edit : Members → Members → Prop) : Json → Json → Prop
  | intro {members members' : Members} (hedit : edit members members') :
    InObject edit (.object members) (.object members')

/-- The value of one field is edited, in a record that is an object or an array. -/
inductive AtField (fields : List String) (name : String) (edit : Json → Json → Prop) :
    Json → Json → Prop
  | member (before : Members) {value value' : Json} (after : Members) (hedit : edit value value') :
    AtField fields name edit (.object (before ++ (some name, value) :: after))
      (.object (before ++ (some name, value') :: after))
  | item (before : List Json) {value value' : Json} (after : List Json)
      (hname : fields[before.length]? = some name) (hedit : edit value value') :
    AtField fields name edit (.array (before ++ value :: after)) (.array (before ++ value' :: after))

/-- One item of an array is edited. -/
inductive AtItem (edit : Json → Json → Prop) : Json → Json → Prop
  | intro (before : List Json) {value value' : Json} (after : List Json)
      (hedit : edit value value') :
    AtItem edit (.array (before ++ value :: after)) (.array (before ++ value' :: after))

section Reading

variable {α : Type} (decode : Decoder α) (value value' : Json)

/-- The same is read of both, or nothing of either. -/
def ReadAlike : Prop :=
  ∀ a, decode value = .ok a ↔ decode value' = .ok a

/-- One of them at most is read. -/
def NotBothRead : Prop :=
  ∀ a b, decode value = .ok a → decode value' ≠ .ok b

end Reading

/-! ### One member more -/

section Insertion

variable (before after : Members) (value : Json)

theorem none_not_mem_insert_iff (name : String) :
    none ∉ (before ++ (some name, value) :: after).map Prod.fst ↔
      none ∉ (before ++ after).map Prod.fst := by
  simp

theorem filter_insert_of_ne {name other : String} (hne : other ≠ name) :
    (before ++ (some other, value) :: after).filter (·.1 == some name) =
      (before ++ after).filter (·.1 == some name) := by
  rw [List.filter_append, List.filter_append, List.filter_cons_of_neg]
  simpa using hne

theorem filter_insert_self_eq_singleton_iff {name : String} {found : Json} :
    (before ++ (some name, value) :: after).filter (·.1 == some name) = [(some name, found)] ↔
      (before ++ after).filter (·.1 == some name) = [] ∧ value = found := by
  simp only [List.filter_append, List.filter_cons, beq_self_eq_true, if_true,
    List.append_eq_singleton_iff, List.append_eq_nil_iff, List.cons.injEq, Prod.mk.injEq]
  constructor
  · rintro (⟨hbefore, ⟨-, rfl⟩, hafter⟩ | ⟨-, hnil⟩)
    · exact ⟨⟨hbefore, hafter⟩, rfl⟩
    · cases hnil
  · rintro ⟨⟨hbefore, hafter⟩, rfl⟩
    exact .inl ⟨hbefore, ⟨trivial, rfl⟩, hafter⟩

end Insertion

section OneObject

variable {α : Type} {decode : Decoder α} {readers : List (FieldReader α)}
  (h : ReadsBy decode readers)
include h

theorem ReadsBy.readAlike_of_unnoticed {value value' : Json}
    (hedit : InObject (Unnoticed (readers.map Prod.fst)) value value') :
    ReadAlike decode value value' := by
  obtain @⟨members, members', hedit⟩ := hedit
  intro a
  rw [h.object_iff, h.object_iff]
  cases hedit with
  | reordered hperm =>
      have hfilter : ∀ name found, members.filter (·.1 == some name) = [(some name, found)] ↔
          members'.filter (·.1 == some name) = [(some name, found)] := by
        intro name found
        rw [← List.perm_singleton, ← List.perm_singleton, (hperm.filter _).congr_left]
      simp only [(hperm.map Prod.fst).mem_iff, hfilter]
  | extended before name value after hname =>
      refine and_congr (none_not_mem_insert_iff before after value name).symm
        (forall₂_congr fun reader hreader => ?_)
      have hne : name ≠ reader.1 := by
        rintro rfl
        exact hname (List.mem_map_of_mem hreader)
      rw [filter_insert_of_ne before after value hne]

/-- A field does not have a member both with and without one more of its name. -/
theorem ReadsBy.notBothRead_insert {before after : Members} {name : String} {value : Json}
    (hname : name ∈ readers.map Prod.fst) :
    NotBothRead decode (.object (before ++ after))
      (.object (before ++ (some name, value) :: after)) := by
  intro a b hread hread'
  rw [h.object_iff] at hread hread'
  obtain ⟨reader, hreader, rfl⟩ := List.mem_map.mp hname
  obtain ⟨found, hfound, -⟩ := hread.2 reader hreader
  obtain ⟨found', hfound', -⟩ := hread'.2 reader hreader
  rw [filter_insert_self_eq_singleton_iff, hfound] at hfound'
  exact List.cons_ne_nil _ _ hfound'.1

theorem ReadsBy.notBothRead_of_fatal {value value' : Json}
    (hedit : InObject (Fatal (readers.map Prod.fst)) value value') :
    NotBothRead decode value value' := by
  obtain ⟨hedit⟩ := hedit
  cases hedit with
  | removed before name value after hname =>
      -- Removing is repeating the other way round, and it is the same two objects that exclude each
      -- other.
      exact fun a b hread hread' => h.notBothRead_insert hname b a hread' hread
  | repeated before name value after hname => exact h.notBothRead_insert hname
  | unnamed before value after =>
      intro a b _ hread'
      rw [h.object_iff] at hread'
      exact hread'.1 (by simp)

end OneObject

/-! ### The values around -/

section Position

variable {α β : Type} {R R' : α → β → Prop} {before after : List α} {x x' : α} {ys : List β}

theorem forall₂_congr_at (h : ∀ y, ys[before.length]? = some y → (R x y ↔ R x' y)) :
    List.Forall₂ R (before ++ x :: after) ys ↔ List.Forall₂ R (before ++ x' :: after) ys := by
  induction before generalizing ys with
  | nil =>
      cases ys with
      | nil => simp
      | cons y ys =>
          rw [List.nil_append, List.nil_append, List.forall₂_cons, List.forall₂_cons, h y rfl]
  | cons first before ih =>
      cases ys with
      | nil => simp
      | cons y ys =>
          rw [List.cons_append, List.cons_append, List.forall₂_cons, List.forall₂_cons, ih h]

theorem exists_of_forall₂_at (h : List.Forall₂ R (before ++ x :: after) ys) :
    ∃ y, ys[before.length]? = some y ∧ R x y := by
  induction before generalizing ys with
  | nil =>
      obtain ⟨y, rest, hxy, -, rfl⟩ := List.forall₂_cons_left_iff.mp h
      exact ⟨y, rfl, hxy⟩
  | cons first before ih =>
      obtain ⟨y, rest, -, hrest, rfl⟩ := List.forall₂_cons_left_iff.mp h
      exact ih hrest

end Position

theorem fst_of_getElem?_map {α : Type} {readers : List (FieldReader α)} {reader : FieldReader α}
    {name : String} {i : Nat} (hname : (readers.map Prod.fst)[i]? = some name)
    (hreader : readers[i]? = some reader) : reader.1 = name := by
  rw [List.getElem?_map, hreader] at hname
  exact Option.some.inj hname

section Field

variable {α : Type} {decode : Decoder α} {readers : List (FieldReader α)}
  (h : ReadsBy decode readers) (hnodup : (readers.map Prod.fst).Nodup) {name : String}
  {edit : Json → Json → Prop}
include h hnodup

/-- A record is read alike if its field is. -/
theorem ReadsBy.readAlike_atField
    (hfield : ∀ value value', edit value value' → ∀ reader ∈ readers, reader.1 = name →
      ∀ a, reader.2 value a ↔ reader.2 value' a)
    {value value' : Json} (hedit : AtField (readers.map Prod.fst) name edit value value') :
    ReadAlike decode value value' := by
  intro a
  cases hedit with
  | member before after hedit =>
      rw [h.object_iff, h.object_iff, none_not_mem_insert_iff, none_not_mem_insert_iff]
      refine and_congr_right fun _ => forall₂_congr fun reader hreader => ?_
      by_cases hname : reader.1 = name
      · subst hname
        simp only [filter_insert_self_eq_singleton_iff, and_assoc, exists_and_left,
          exists_eq_left', hfield _ _ hedit reader hreader rfl]
      · rw [filter_insert_of_ne _ _ _ (Ne.symm hname), filter_insert_of_ne _ _ _ (Ne.symm hname)]
  | item before after hname hedit =>
      rw [h.array_iff hnodup, h.array_iff hnodup]
      refine forall₂_congr_at fun reader hreader => ?_
      exact hfield _ _ hedit reader (List.mem_of_getElem? hreader)
        (fst_of_getElem?_map hname hreader) a

/-- A record is not read both times if its field is not. -/
theorem ReadsBy.notBothRead_atField (hname : name ∈ readers.map Prod.fst)
    (hfield : ∀ value value', edit value value' → ∀ reader ∈ readers, reader.1 = name →
      ∀ a b, reader.2 value a → ¬ reader.2 value' b)
    {value value' : Json} (hedit : AtField (readers.map Prod.fst) name edit value value') :
    NotBothRead decode value value' := by
  intro a b hread hread'
  cases hedit with
  | member before after hedit =>
      rw [h.object_iff] at hread hread'
      obtain ⟨reader, hreader, rfl⟩ := List.mem_map.mp hname
      obtain ⟨found, hfound, hvalue⟩ := hread.2 reader hreader
      obtain ⟨found', hfound', hvalue'⟩ := hread'.2 reader hreader
      rw [filter_insert_self_eq_singleton_iff] at hfound hfound'
      rw [← hfound.2] at hvalue
      rw [← hfound'.2] at hvalue'
      exact hfield _ _ hedit reader hreader rfl a b hvalue hvalue'
  | item before after hname hedit =>
      rw [h.array_iff hnodup] at hread hread'
      obtain ⟨reader, hreader, hvalue⟩ := exists_of_forall₂_at hread
      obtain ⟨reader', hreader', hvalue'⟩ := exists_of_forall₂_at hread'
      obtain rfl : reader = reader' := Option.some.inj (hreader.symm.trans hreader')
      exact hfield _ _ hedit reader (List.mem_of_getElem? hreader)
        (fst_of_getElem?_map hname hreader) a b hvalue hvalue'

end Field

theorem list_array_eq_ok_iff {α : Type} {decode : Decoder α} {items : List Json} {read : List α} :
    list decode (.array items) = .ok read ↔
      List.Forall₂ (fun item value => decode item = .ok value) items read :=
  mapM_eq_ok_iff

section Item

variable {α : Type} {decode : Decoder α} {edit : Json → Json → Prop} {value value' : Json}
  (hedit : AtItem edit value value')
include hedit

theorem readAlike_atItem (hitem : ∀ value value', edit value value' → ReadAlike decode value value') :
    ReadAlike (list decode) value value' := by
  obtain ⟨before, after, hedit⟩ := hedit
  intro read
  rw [list_array_eq_ok_iff, list_array_eq_ok_iff]
  exact forall₂_congr_at fun read _ => hitem _ _ hedit read

theorem notBothRead_atItem
    (hitem : ∀ value value', edit value value' → NotBothRead decode value value') :
    NotBothRead (list decode) value value' := by
  obtain ⟨before, after, hedit⟩ := hedit
  intro read read' hread hread'
  rw [list_array_eq_ok_iff] at hread hread'
  obtain ⟨a, -, ha⟩ := exists_of_forall₂_at hread
  obtain ⟨b, -, hb⟩ := exists_of_forall₂_at hread'
  exact hitem _ _ hedit a b ha hb

end Item

end DriverAlerts.Json
