import CivilTime.Proofs.Calendar

/-!
# The place of a date in its year

The calendar counts the days of a year as it counts everything: the days of the months that are
over, and those of the month one is in. `CivilTime.Date.yearDay` takes the difference of two day
numbers instead, and knows no month but January. That both are the same is the calendar's equation
– that the next month starts when the days of this one are over – added up over the months of
the year (`CivilTime.Date.monthStart_eq_add_sum`).

* `CivilTime.Date.yearDay_eq`: the day of the year is the day of the month and the lengths of the
  months before it;
* `CivilTime.yearLength`, `CivilTime.sum_monthLength`: the lengths of all twelve months;
* `CivilTime.Date.yearDay_bounds`: no date that exists is beyond them.
-/

namespace CivilTime

/-! ### Years by their months -/

/-- The number of days of a year. -/
def yearLength (year : Int) : Int :=
  if IsLeapYear year then 366 else 365

/-- **A year is as long as its months.** -/
theorem sum_monthLength (year : Int) :
    ∑ month ∈ Finset.Ico 1 13, monthLength year month = yearLength year := by
  have hmonths : Finset.Ico (1 : Int) 13 = {1, 2, 3, 4, 5, 6, 7, 8, 9, 10, 11, 12} := by decide
  rw [hmonths, yearLength]
  by_cases hleap : IsLeapYear year <;> simp [monthLength, hleap]

namespace Date

variable {d : Date}

/-- **A month starts when the months before it are over**, counted from January. -/
theorem monthStart_eq_add_sum (year : Int) {month : Int} (h : 1 ≤ month ∧ month ≤ 13) :
    monthStart (12 * year + month - 3) =
      monthStart (12 * year + 1 - 3) + ∑ before ∈ Finset.Ico 1 month, monthLength year before := by
  obtain ⟨hfirst, hlast⟩ := h
  induction month, hfirst using Int.leInduction with
  | base => simp
  | succ month hmonth ih =>
    have hnext : monthStart (12 * year + month - 3 + 1) =
        monthStart (12 * year + month - 3) + monthLength year month :=
      monthStart_monthNumber_succ (d := ⟨year, month, 1⟩) ⟨hmonth, by dsimp only; omega⟩
    have hnumber : 12 * year + (month + 1) - 3 = 12 * year + month - 3 + 1 := by omega
    rw [hnumber, hnext, ih (by omega), ← Finset.sum_Ico_add_eq_sum_Ico_add_one hmonth, add_assoc]

/-! ### The day of the year -/

/-- **The day of the year** is the day of the month, and the days of the months before it. -/
theorem yearDay_eq (h : 1 ≤ d.month ∧ d.month ≤ 12) :
    d.yearDay = d.day + ∑ month ∈ Finset.Ico 1 d.month, monthLength d.year month := by
  have hstart : monthStart d.monthNumber = monthStart (12 * d.year + 1 - 3) +
      ∑ month ∈ Finset.Ico 1 d.month, monthLength d.year month :=
    monthStart_eq_add_sum d.year (by omega)
  have hjanuary : (1 : Int) ≤ 1 ∧ (1 : Int) ≤ 12 := by decide
  have hfirst : toDays { year := d.year, month := 1, day := 1 } =
      monthStart (12 * d.year + 1 - 3) + 1 - 1 :=
    toDays_eq_monthStart hjanuary
  rw [yearDay, toDays_eq_monthStart h, hfirst, hstart]
  omega

/-- The months before a month, and that month itself, are no longer than the year. -/
theorem sum_monthLength_le (year : Int) {month : Int} (h : 1 ≤ month ∧ month ≤ 12) :
    ∑ before ∈ Finset.Ico 1 (month + 1), monthLength year before ≤ yearLength year := by
  rw [← sum_monthLength]
  refine Finset.sum_le_sum_of_subset_of_nonneg (Finset.Ico_subset_Ico_right (by omega)) ?_
  intro other _ _
  have hlength := (monthLength_bounds year other).1
  omega

/-- **The day of the year of a date that exists** is one of the days of the year. -/
theorem yearDay_bounds (hd : d.IsValid) : 1 ≤ d.yearDay ∧ d.yearDay ≤ yearLength d.year := by
  obtain ⟨hmonth, hday, hlength⟩ := hd
  have hyear := sum_monthLength_le d.year hmonth
  rw [← Finset.sum_Ico_add_eq_sum_Ico_add_one hmonth.1] at hyear
  have hbefore : 0 ≤ ∑ month ∈ Finset.Ico 1 d.month, monthLength d.year month := by
    refine Finset.sum_nonneg fun month _ => ?_
    have hlength := (monthLength_bounds d.year month).1
    omega
  rw [yearDay_eq hmonth]
  omega

end Date

end CivilTime
