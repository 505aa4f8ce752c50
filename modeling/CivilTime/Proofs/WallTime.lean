import CivilTime.Proofs.Calendar
import CivilTime.WallTime

/-!
# Wall times and wall seconds

A wall time that can be shown is one count of **wall seconds** and the nanoseconds of the
second, and no more than that: `CivilTime.WallTime.ofSeconds` and
`CivilTime.WallTime.toSeconds` lead from one to the other and back, over all years
(`CivilTime.WallTime.ofSeconds_eq_iff`). No field ever rolls over into the next one: what
comes out of a count of seconds is on the clock and on the calendar
(`CivilTime.WallTime.isShowable_ofSeconds`).

The order is the same on both sides. Wall times are put in order as they are read, from the
year down, and that is the order of their seconds
(`CivilTime.WallTime.toSeconds_lt_or_of_toList_lt`).
-/

namespace CivilTime

namespace WallTime

/-! ### From wall seconds to wall times -/

/-- Every count of wall seconds has a wall time that can be shown. -/
theorem isShowable_ofSeconds (wall nanoseconds : Int) :
    (ofSeconds wall nanoseconds).IsShowable := by
  refine ⟨?_, Date.isValid_ofDays (wall / secondsPerDay)⟩
  have hday : 0 ≤ wall % secondsPerDay ∧ wall % secondsPerDay < 86400 := by
    rw [secondsPerDay]
    omega
  -- whatever is left of a day splits into hours, minutes and seconds within their ranges
  rw [ofSeconds, IsOnClock]
  dsimp only
  omega

/-- **From wall seconds to the wall time and back.** -/
theorem toSeconds_ofSeconds (wall nanoseconds : Int) :
    (ofSeconds wall nanoseconds).toSeconds = wall := by
  have hdate : (ofSeconds wall nanoseconds).date.toDays = wall / secondsPerDay :=
    Date.toDays_ofDays _
  rw [toSeconds, hdate, ofSeconds, secondsPerDay]
  dsimp only
  omega

/-! ### From wall times to wall seconds -/

/-- The wall seconds of a time of day, taken apart into days and the rest. -/
theorem toSeconds_bounds {w : WallTime} (hw : w.IsOnClock) :
    w.toSeconds / secondsPerDay = w.date.toDays ∧
      w.toSeconds % secondsPerDay = w.hour * 3600 + w.minute * 60 + w.second := by
  obtain ⟨hhour, hminute, hsecond⟩ := hw
  rw [toSeconds, secondsPerDay]
  constructor <;> omega

/-- **From a wall time that can be shown to its wall seconds and back.** -/
theorem ofSeconds_toSeconds {w : WallTime} (hw : w.IsShowable) :
    ofSeconds w.toSeconds w.nanoseconds = w := by
  obtain ⟨hdays, hrest⟩ := toSeconds_bounds hw.1
  obtain ⟨⟨hhour, hminute, hsecond⟩, hdate⟩ := hw
  rw [ofSeconds, hdays, hrest, Date.ofDays_toDays hdate]
  obtain ⟨year, month, day, hour, minute, second, nanoseconds⟩ := w
  dsimp only [date] at *
  -- the date is the same already, and the clock is put together from the rest of the day
  congr 1 <;> omega

/-- **A wall time that can be shown is its wall seconds and its nanoseconds.** -/
theorem ofSeconds_eq_iff {wall nanoseconds : Int} {w : WallTime} :
    ofSeconds wall nanoseconds = w ↔
      w.IsShowable ∧ nanoseconds = w.nanoseconds ∧ wall = w.toSeconds := by
  constructor
  · rintro rfl
    exact ⟨isShowable_ofSeconds _ _, rfl, (toSeconds_ofSeconds _ _).symm⟩
  · rintro ⟨hw, rfl, rfl⟩
    exact ofSeconds_toSeconds hw

/-! ### The order of wall times -/

/-- **The order of wall times is that of their wall seconds**, and of the nanoseconds where
these are the same. -/
theorem toSeconds_lt_or_of_toList_lt {v w : WallTime} (hv : v.IsShowable) (hw : w.IsShowable)
    (h : v.toList < w.toList) :
    v.toSeconds < w.toSeconds ∨ v.toSeconds = w.toSeconds ∧ v.nanoseconds < w.nanoseconds := by
  obtain ⟨⟨hhour, hminute, hsecond⟩, hdate⟩ := hv
  obtain ⟨⟨hhour', hminute', hsecond'⟩, hdate'⟩ := hw
  simp only [toList, List.cons_lt_cons_iff, List.not_lt_nil, and_false, or_false] at h
  -- either the dates differ, and then by a day at least, or only the clocks do
  have hdays : v.date < w.date ∨ v.date.toDays = w.date.toDays ∧
      (v.hour < w.hour ∨ v.hour = w.hour ∧ (v.minute < w.minute ∨ v.minute = w.minute ∧
        (v.second < w.second ∨ v.second = w.second ∧ v.nanoseconds < w.nanoseconds))) := by
    rcases h with h | ⟨hyear, h | ⟨hmonth, h | ⟨hday, h⟩⟩⟩
    · exact Or.inl (Or.inl h)
    · exact Or.inl (Or.inr ⟨hyear, Or.inl h⟩)
    · exact Or.inl (Or.inr ⟨hyear, Or.inr ⟨hmonth, h⟩⟩)
    · refine Or.inr ⟨?_, h⟩
      rw [date, date, hyear, hmonth, hday]
  rw [toSeconds, toSeconds, secondsPerDay]
  rcases hdays with hlt | ⟨heq, hclock⟩
  · have hdays := Date.toDays_lt_toDays hdate hdate' hlt
    omega
  · omega

end WallTime

end CivilTime
