import CivilTime.Proofs.Succession
import CivilTime.Proofs.Tellable

/-!
# The range of the look-up

The clocks of the look-up show the years 1 to 9999. A second is **looked up as it is** if it is in
these years and a day away from either end of them, or a little more (`CivilTime.IsInLookup`); any
other second is looked up some 400-year cycles nearer (`CivilTime.cycleShift`).

How many cycles these are is found by a division at either end, with the signs the other way round.
Both divisions round away from the range, and that is right because the range is longer than one
cycle: coming from outside, the first cycle that passes the near end does not pass the far one. So
the second gets into the range (`CivilTime.add_cycleShift_bounds`), and it takes **no cycle more
than needed** (`CivilTime.natAbs_le_of_isInLookup`).

The day at either end is room for the offset of a zone. Whatever is less than a day away from a
second of the range is still in these years (`CivilTime.IsInLookup.isInLookupYears_add`), so that
the clocks of a zone can be shown there and do not overflow (`CivilTime.Zone.tell_ne_overflow`).
That a year is in a range is for this purpose a statement about day numbers
(`CivilTime.Date.le_year_iff`).

All of this is put together in `CivilTime.fewest_cycles_into_lookup`.
-/

namespace CivilTime

/-! ### The years of the look-up -/

/-- Wall seconds of **the years of the look-up**. -/
def IsInLookupYears (wall : Int) : Prop :=
  1 ≤ (WallTime.ofSeconds wall 0).year ∧ (WallTime.ofSeconds wall 0).year ≤ 9999

/-- They are those that the clocks of the look-up show. -/
theorem isInLookupYears_iff {wall : Int} :
    IsInLookupYears wall ↔ clockMin ≤ wall ∧ wall ≤ clockMax := by
  obtain ⟨d, hd⟩ : ∃ d, Date.ofDays (wall / secondsPerDay) = d := ⟨_, rfl⟩
  have hvalid : d.IsValid := hd ▸ Date.isValid_ofDays _
  have hdays : d.toDays = wall / secondsPerDay := hd ▸ Date.toDays_ofDays _
  have hyear : (WallTime.ofSeconds wall 0).year = d.year := congrArg Date.year hd
  have hfirst := Date.le_year_iff hvalid 1
  have hlast := Date.le_year_iff hvalid 10000
  rw [hdays, secondsPerDay] at hfirst hlast
  rw [IsInLookupYears, hyear, clockMin, clockMax, secondsPerDay]
  omega

/-! ### The range -/

/-- A second that is **looked up as it is**. -/
def IsInLookup (s : Int) : Prop :=
  lookupMin ≤ s ∧ s ≤ lookupMax

instance (s : Int) : Decidable (IsInLookup s) :=
  inferInstanceAs (Decidable (_ ∧ _))

/-- The first and the last of these seconds. -/
example : WallTime.ofSeconds lookupMin 0 = { year := 1, month := 1, day := 2 } ∧
    WallTime.ofSeconds lookupMax 0 = { year := 9999, month := 12, day := 30 } := by decide

/-- **Less than a day away from the range** it is still one of the years of the look-up. -/
theorem IsInLookup.isInLookupYears_add {s offset : Int} (h : IsInLookup s)
    (hoffset : IsWithinDay offset) : IsInLookupYears (s + offset) :=
  isInLookupYears_iff.mpr (clock_bounds_of_lookup h hoffset)

/-- A second of the range is in those years itself. -/
theorem IsInLookup.isInLookupYears {s : Int} (h : IsInLookup s) : IsInLookupYears s := by
  have hsame := h.isInLookupYears_add Zone.isWithinDay_zero
  rwa [Int.add_zero] at hsame

/-! ### The way into it -/

variable {s k j : Int}

/-- The way into the range is a number of cycles. -/
theorem exists_cycleShift_eq (s : Int) : ∃ k, cycleShift s = k * cycleSeconds := by
  rw [cycleShift]
  split_ifs
  · exact ⟨_, rfl⟩
  · exact ⟨_, rfl⟩
  · exact ⟨0, (Int.zero_mul _).symm⟩

/-- **Only what is beyond the range has a way to go.** -/
theorem cycleShift_eq_zero_iff : cycleShift s = 0 ↔ IsInLookup s := by
  rw [IsInLookup, cycleShift, cycleSeconds_eq]
  split_ifs <;> omega

/-- **No cycle more than needed**: no smaller number of cycles leads into the range, neither
forward nor back. -/
theorem natAbs_le_of_isInLookup (hk : cycleShift s = k * cycleSeconds)
    (hj : IsInLookup (s + j * cycleSeconds)) : k.natAbs ≤ j.natAbs := by
  have horder : lookupMin ≤ lookupMax := by decide
  rw [IsInLookup, cycleSeconds_eq] at hj
  rw [cycleShift, cycleSeconds_eq] at hk
  split_ifs at hk <;> omega

/-- **Clocks less than a day away from Universal Time never overflow**, whichever second they are
asked about. -/
theorem Zone.tell_ne_overflow {z : Zone} (h : IsWithinDay (z.utcOffset s)) :
    z.tell s ≠ .error .overflow := by
  intro htell
  obtain ⟨-, hfailure⟩ := tell_eq_error_iff.mp htell
  rw [if_pos (isOnCalendar_of_isWithinDay h)] at hfailure
  cases hfailure

/-- **The look-up is never left.** The way of a second into the range is a whole number of cycles of
146097 days, the fewest that lead there, and none if the second is in the range already. Where it
leads to, and on the clocks there of a zone that is less than a day away from Universal Time, the
year is one from 1 to 9999; so no such zone overflows when it is asked about the second. -/
theorem fewest_cycles_into_lookup (s : Int) :
    (∃ k, cycleShift s = k * (146097 * 86400) ∧
      ∀ j, IsInLookup (s + j * (146097 * 86400)) → k.natAbs ≤ j.natAbs) ∧
      (cycleShift s = 0 ↔ IsInLookup s) ∧ IsInLookup (s + cycleShift s) ∧
      ∀ offset, IsWithinDay offset →
        IsInLookupYears (s + cycleShift s) ∧ IsInLookupYears (s + cycleShift s + offset) ∧
          ∀ z : Zone, z.utcOffset s = offset → z.tell s ≠ .error .overflow := by
  have hinto : IsInLookup (s + cycleShift s) := add_cycleShift_bounds s
  obtain ⟨k, hk⟩ := exists_cycleShift_eq s
  refine ⟨⟨k, hk, fun j hj => natAbs_le_of_isInLookup hk hj⟩, cycleShift_eq_zero_iff, hinto,
    fun offset hoffset => ⟨hinto.isInLookupYears, hinto.isInLookupYears_add hoffset, ?_⟩⟩
  rintro z rfl
  exact Zone.tell_ne_overflow hoffset

/-- One second after the range the way back is a single cycle, though two would lead there, too; and
clocks that are ahead by a second less than a day are not asked for more. -/
theorem fewest_cycles_into_lookup_afterLast :
    cycleShift (lookupMax + 1) = -1 * (146097 * 86400) ∧
      IsInLookup (lookupMax + 1 + -2 * (146097 * 86400)) ∧
      (∃ k, cycleShift (lookupMax + 1) = k * (146097 * 86400) ∧ k.natAbs ≤ 2) ∧
      IsWithinDay 86399 ∧ IsInLookupYears (lookupMax + 1 + cycleShift (lookupMax + 1) + 86399) ∧
      (Zone.fixed 86399).tell (lookupMax + 1) ≠ .error .overflow := by
  have htwo : IsInLookup (lookupMax + 1 + -2 * (146097 * 86400)) := by decide
  have hday : IsWithinDay 86399 := by decide
  obtain ⟨⟨k, hk, hfewest⟩, -, -, hyears⟩ := fewest_cycles_into_lookup (lookupMax + 1)
  obtain ⟨-, hshown, htell⟩ := hyears 86399 hday
  exact ⟨by decide, htwo, ⟨k, hk, hfewest (-2) htwo⟩, hday, hshown, htell (.fixed 86399) rfl⟩

end CivilTime
