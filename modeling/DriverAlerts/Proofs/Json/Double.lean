import DriverAlerts.Proofs.Json.Decode
import DriverAlerts.Proofs.Json.Reader
import DriverAlerts.Proofs.Number.Double
import Mathlib
/-!
# Doubles that survive

A double is written as the shortest decimal that rounds to it, and that decimal is read back with an
error of its own, so the double that is read need not be the one that was written. Some doubles
survive this and others do not. A double that is not finite is written as null, which is no number,
and is never read. What is shown here of a list of doubles and of a single one holds whatever the
spelling of numbers: a list survives if all of its items do.
-/

namespace DriverAlerts

namespace Json

theorem ofFloat_of_not_isFinite {x : Float} (hx : x.isFinite = false) : ofFloat x = null := by
  rw [← Number.Binary.isSome_ofFloat?, Option.isSome_eq_false_iff, Option.isNone_iff_eq_none] at hx
  rw [ofFloat, Numeral.ofFloat?, hx]
  rfl

theorem legible_ofFloat (x : Float) : (ofFloat x).Legible := by
  rw [ofFloat]
  split
  · exact legible_number _
  · exact legible_null

/-- The text of the first double is read as the second. -/
def Reads (x y : Float) : Prop :=
  decodeText double (ofFloat x).compact = .ok y

/-- The text of the double is read as an equal one. -/
def Survives (x : Float) : Prop :=
  ∃ y, Reads x y ∧ y == x

theorem reads_iff {x y : Float} : Reads x y ↔ double (ofFloat x) = .ok y := by
  rw [Reads, decodeText, ofText?_compact (legible_ofFloat x)]

theorem isFinite_of_reads {x y : Float} (h : Reads x y) : x.isFinite := by
  by_contra hx
  rw [reads_iff, ofFloat_of_not_isFinite (Bool.eq_false_iff.mpr hx)] at h
  exact nomatch h

theorem isFinite_of_survives {x : Float} (h : Survives x) : x.isFinite := by
  obtain ⟨y, hread, -⟩ := h
  exact isFinite_of_reads hread

theorem isFinite_of_reads_list {xs ys : List Float} (h : List.Forall₂ Reads xs ys) :
    ∀ x ∈ xs, x.isFinite := by
  have hboth := h.imp fun x y hread => And.intro (isFinite_of_reads hread) hread
  exact ((List.forall₂_and_left xs ys).mp hboth).1

/-- A list is read item by item, and as an equal list if each item survives. -/
theorem exists_reads_list_iff {xs : List Float} :
    (∃ ys, List.Forall₂ Reads xs ys ∧ ys == xs) ↔ ∀ x ∈ xs, Survives x := by
  induction xs with
  | nil => simp
  | cons x xs ih =>
      rw [List.forall_mem_cons, ← ih]
      simp only [List.forall₂_cons_left_iff, Survives]
      constructor
      · rintro ⟨_, ⟨y, ys, hread, hreads, rfl⟩, hsame⟩
        rw [List.cons_beq_cons, Bool.and_eq_true] at hsame
        exact ⟨⟨y, hread, hsame.1⟩, ys, hreads, hsame.2⟩
      · rintro ⟨⟨y, hread, hsame⟩, ys, hreads, hsames⟩
        refine ⟨y :: ys, ⟨y, ys, hread, hreads, rfl⟩, ?_⟩
        rw [List.cons_beq_cons, hsame, hsames]
        rfl

/-- Only the two zeros are equal and not the same. -/
theorem eq_of_beq_of_pos {x y : Float} (hsame : y == x) (hpos : ¬ x ≤ 0) : y = x := by
  obtain ⟨-, -, rfl | ⟨-, rfl⟩ | ⟨-, rfl⟩⟩ := Float.beq_iff_ne_nan_and_eq.mp hsame
  · rfl
  · exact absurd (by decide) hpos
  · exact absurd (by decide) hpos

end Json

end DriverAlerts
