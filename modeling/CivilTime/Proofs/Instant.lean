import CivilTime.Instant
import Mathlib.Order.Defs.LinearOrder

/-!
# Instants in order

Instants are put in order as pairs, seconds first, and `CivilTime.Instant.ascending` sorts
them by inserting one after the other. An ascending list holds what the list held
(`CivilTime.Instant.mem_ascending`), strictly in order and so without repetitions
(`CivilTime.Instant.pairwise_ascending`). Its first entry is the least
(`CivilTime.Instant.head?_eq_some_iff_of_pairwise`).
-/

namespace CivilTime

namespace Instant

theorem eq_iff {a b : Instant} :
    a = b ↔ a.seconds = b.seconds ∧ a.nanoseconds = b.nanoseconds := by
  obtain ⟨s, n⟩ := a
  obtain ⟨s', n'⟩ := b
  rw [mk.injEq]

/-- The order of instants is total. -/
instance : LinearOrder Instant where
  le_refl a := by rw [le_iff]; omega
  le_trans a b c hab hbc := by rw [le_iff] at *; omega
  lt_iff_le_not_ge a b := by rw [lt_iff, le_iff, le_iff]; omega
  le_antisymm a b hab hba := by rw [le_iff] at *; rw [eq_iff]; omega
  le_total a b := by rw [le_iff, le_iff]; omega
  toDecidableLE := inferInstance
  toDecidableLT := inferInstance
  toDecidableEq := inferInstance

/-! ### Ascending lists -/

/-- An instant put in its place is in the list, with all that was there. -/
theorem mem_insertAscending {i j : Instant} {l : List Instant} :
    j ∈ insertAscending i l ↔ j = i ∨ j ∈ l := by
  induction l with
  | nil => simp [insertAscending]
  | cons k rest ih =>
    rw [insertAscending]
    split_ifs with hlt hgt
    · simp
    · simp [ih, or_left_comm]
    · -- neither is less, so the instant is there already
      obtain rfl : i = k := le_antisymm (not_lt.mp hgt) (not_lt.mp hlt)
      simp

/-- An instant put in its place leaves the list in order. -/
theorem pairwise_insertAscending {i : Instant} {l : List Instant} (h : l.Pairwise (· < ·)) :
    (insertAscending i l).Pairwise (· < ·) := by
  induction l with
  | nil => exact List.pairwise_singleton _ _
  | cons k rest ih =>
    obtain ⟨hk, hrest⟩ := List.pairwise_cons.mp h
    rw [insertAscending]
    split_ifs with hlt hgt
    · refine List.pairwise_cons.mpr ⟨fun j hj => ?_, h⟩
      rcases List.mem_cons.mp hj with rfl | hj
      · exact hlt
      · exact lt_trans hlt (hk j hj)
    · refine List.pairwise_cons.mpr ⟨fun j hj => ?_, ih hrest⟩
      rcases mem_insertAscending.mp hj with rfl | hj
      · exact hgt
      · exact hk j hj
    · exact h

/-- **An ascending list holds what the list held.** -/
theorem mem_ascending {j : Instant} {l : List Instant} : j ∈ ascending l ↔ j ∈ l := by
  induction l with
  | nil => exact Iff.rfl
  | cons k rest ih =>
    have hstep : ascending (k :: rest) = insertAscending k (ascending rest) := rfl
    rw [hstep, mem_insertAscending, ih, List.mem_cons]

/-- **An ascending list is strictly in order.** -/
theorem pairwise_ascending (l : List Instant) : (ascending l).Pairwise (· < ·) := by
  induction l with
  | nil => exact List.Pairwise.nil
  | cons k rest ih => exact pairwise_insertAscending ih

/-- **The first of an ascending list is the least.** -/
theorem head?_eq_some_iff_of_pairwise {l : List Instant} (h : l.Pairwise (· < ·)) {i : Instant} :
    l.head? = some i ↔ i ∈ l ∧ ∀ j ∈ l, i ≤ j := by
  cases l with
  | nil => simp
  | cons k rest =>
    obtain ⟨hk, -⟩ := List.pairwise_cons.mp h
    rw [List.head?_cons, Option.some_inj]
    constructor
    · rintro rfl
      refine ⟨List.mem_cons_self, fun j hj => ?_⟩
      rcases List.mem_cons.mp hj with rfl | hj
      · exact le_refl j
      · exact le_of_lt (hk j hj)
    · rintro ⟨hi, hleast⟩
      rcases List.mem_cons.mp hi with rfl | hi
      · rfl
      · exact absurd (hleast k List.mem_cons_self) (not_le.mpr (hk i hi))

end Instant

end CivilTime
