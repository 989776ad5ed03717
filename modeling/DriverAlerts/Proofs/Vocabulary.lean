import DriverAlerts.Alert.Basic
import DriverAlerts.Text.Locale
import Mathlib.Data.List.Nodup
/-!
# Names tell words apart

A name stands for a word in records, in tags and in the text of a layout, so everything that is read
back from those rests on two facts about a vocabulary: its listing holds every word, and no two words
share a name. Reading a name is then the inverse of writing it. The names of events and categories
consist of letters alone, so a text in which names are set apart by other characters determines them.
-/

namespace DriverAlerts

/-- A vocabulary whose listing is complete and whose names are distinct. -/
class LawfulNamed (α : Type) [Named α] : Prop where
  mem_all : ∀ word : α, word ∈ (Named.all : List α)
  nodup_names : ((Named.all : List α).map Named.name).Nodup

namespace Named

variable {α : Type} [Named α] [LawfulNamed α]

theorem nodup_all : (Named.all : List α).Nodup :=
  LawfulNamed.nodup_names.of_map Named.name

theorem name_injective : Function.Injective (Named.name : α → String) := by
  intro left right hname
  exact List.inj_on_of_nodup_map LawfulNamed.nodup_names (LawfulNamed.mem_all left)
    (LawfulNamed.mem_all right) hname

/-- A name is understood as the one word that bears it. -/
theorem ofName?_eq_some_iff {text : String} {word : α} :
    ofName? text = some word ↔ Named.name word = text := by
  constructor
  · intro hfound
    simpa only [beq_iff_eq] using List.find?_some hfound
  · intro hname
    have hmem := LawfulNamed.mem_all word
    cases hfound : ofName? (α := α) text with
    | none =>
        have hnone := List.find?_eq_none.mp hfound word hmem
        simp only [hname, beq_self_eq_true, not_true_eq_false] at hnone
    | some other =>
        have hother : Named.name other = text := by
          simpa only [beq_iff_eq] using List.find?_some hfound
        rw [name_injective (hother.trans hname.symm)]

@[simp] theorem ofName?_name (word : α) : ofName? (Named.name word) = some word :=
  ofName?_eq_some_iff.mpr rfl

end Named

instance : LawfulNamed Event where
  mem_all word := by cases word <;> decide
  nodup_names := by decide +kernel

instance : LawfulNamed Category where
  mem_all word := by cases word <;> decide
  nodup_names := by decide +kernel

instance : LawfulNamed Status where
  mem_all word := by cases word <;> decide
  nodup_names := by decide +kernel

instance : LawfulNamed Size where
  mem_all word := by cases word <;> decide
  nodup_names := by decide +kernel

instance : LawfulNamed Priority where
  mem_all word := by cases word <;> decide
  nodup_names := by decide +kernel

instance : LawfulNamed VisualCue where
  mem_all word := by cases word <;> decide
  nodup_names := by decide +kernel

instance : LawfulNamed AudibleCue where
  mem_all word := by cases word <;> decide
  nodup_names := by decide +kernel

instance : LawfulNamed Locale where
  mem_all word := by cases word <;> decide
  nodup_names := by decide +kernel

theorem Event.mem_all (event : Event) : event ∈ Event.all :=
  LawfulNamed.mem_all event

theorem Category.mem_all (category : Category) : category ∈ Category.all :=
  LawfulNamed.mem_all category

/-! ### The order of listings -/

theorem Event.pairwise_all :
    Event.all.Pairwise fun left right => left.ctorIdx < right.ctorIdx := by
  have hplaces : Event.all.map Event.ctorIdx = List.range 87 := rfl
  rw [← List.pairwise_map (f := Event.ctorIdx) (R := (· < ·)), hplaces]
  exact List.pairwise_lt_range

theorem Category.pairwise_all :
    Category.all.Pairwise fun left right => left.ctorIdx < right.ctorIdx := by
  decide

/-! ### Names among other characters -/

theorem Event.name_letters (event : Event) : ∀ c ∈ event.name.toList, c.isAlpha := by
  have hall : event.name.toList.all Char.isAlpha := by
    cases event <;> decide +kernel
  exact List.all_eq_true.mp hall

theorem Category.name_letters (category : Category) : ∀ c ∈ category.name.toList, c.isAlpha := by
  have hall : category.name.toList.all Char.isAlpha := by
    cases category <;> decide +kernel
  exact List.all_eq_true.mp hall

/-- The name in front of the first character that is no letter. -/
theorem takeWhile_isAlpha_name (event : Event) {delimiter : Char} (hdelimiter : ¬ delimiter.isAlpha)
    (rest : List Char) :
    (event.name.toList ++ delimiter :: rest).takeWhile Char.isAlpha = event.name.toList := by
  rw [List.takeWhile_append_of_pos event.name_letters, List.takeWhile_cons_of_neg hdelimiter,
    List.append_nil]

/-- An event before a delimiter can be read off a text, and so can what follows. -/
theorem Event.name_append_cons_inj {left right : Event} {delimiter : Char}
    (hdelimiter : ¬ delimiter.isAlpha) {restLeft restRight : List Char}
    (h : left.name.toList ++ delimiter :: restLeft = right.name.toList ++ delimiter :: restRight) :
    left = right ∧ restLeft = restRight := by
  have hname := congrArg (List.takeWhile Char.isAlpha) h
  rw [takeWhile_isAlpha_name left hdelimiter, takeWhile_isAlpha_name right hdelimiter] at hname
  have heq : left = right := Named.name_injective (String.toList_injective hname)
  subst heq
  exact ⟨rfl, List.tail_eq_of_cons_eq (List.append_cancel_left h)⟩

/-- The tag of a resolved alert determines its event and its category. -/
theorem Alert.origin_inj {event event' : Event} {category category' : Category} :
    Alert.origin event category = Alert.origin event' category' ↔
      event = event' ∧ category = category' := by
  constructor
  · intro htag
    have htext := congrArg String.toList htag
    simp only [Alert.origin, String.toList_append, List.append_assoc] at htext
    obtain ⟨hevent, hrest⟩ :=
      Event.name_append_cons_inj (show ¬ '/'.isAlpha by decide) htext
    exact ⟨hevent, Named.name_injective (String.toList_injective hrest)⟩
  · rintro ⟨rfl, rfl⟩
    rfl

end DriverAlerts
