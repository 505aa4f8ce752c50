import CivilTime.Proofs.Calendar

/-!
# One date after the other

A calendar is a rule for the day after today: count on within the month, and when its days are
over start the next one, or the next year (`CivilTime.Date.next`). The rule knows the lengths of the
months and nothing of cycles. The closed forms of `CivilTime.Calendar` know cycles, and are held
against the rule here.

It is enough to see that the rule takes **one day** by day numbers
(`CivilTime.Date.toDays_next`): within a month that is plain, and from one month to the next it is
the calendar's equation, that a month starts when the days of the one before are over. Since day
numbers tell dates apart, the closed form must then find the very date that the rule names
(`CivilTime.Date.ofDays_succ`).

The rule can be told without any lengths, too. Two dates are **consecutive** if the second is
later and no date that exists lies between them (`CivilTime.Date.IsRightBefore`), and that is the
same thing (`CivilTime.Date.isRightBefore_iff`).

| | theorem |
|---|---|
| dates and day numbers, there and back | `CivilTime.Date.dates_and_days_correspond` |
| day numbers follow the calendar, date by date | `CivilTime.Date.days_follow_calendar` |
-/

namespace CivilTime

namespace Date

variable {d e : Date} {n : Int}

/-! ### The next date -/

/-- **The date after a date**: the next day of the month, else the first of the next month, else the
first of January. -/
def next (d : Date) : Date :=
  if d.day < monthLength d.year d.month then { d with day := d.day + 1 }
  else if d.month < 12 then { d with month := d.month + 1, day := 1 }
  else { year := d.year + 1, month := 1, day := 1 }

/-- The ways to the next date. -/
theorem next_cases (hd : d.IsValid) :
    d.day < monthLength d.year d.month ∧ d.next = { d with day := d.day + 1 } ∨
      d.day = monthLength d.year d.month ∧ d.month < 12 ∧
        d.next = { d with month := d.month + 1, day := 1 } ∨
      d.day = monthLength d.year d.month ∧ d.month = 12 ∧
        d.next = { year := d.year + 1, month := 1, day := 1 } := by
  obtain ⟨⟨-, hmonth⟩, -, hday⟩ := hd
  rw [next]
  split_ifs with hmore hother
  · exact Or.inl ⟨hmore, rfl⟩
  · exact Or.inr (Or.inl ⟨by omega, hother, rfl⟩)
  · exact Or.inr (Or.inr ⟨by omega, by omega, rfl⟩)

/-- A month is never without a first day. -/
theorem isValid_first {year month : Int} (h : 1 ≤ month ∧ month ≤ 12) :
    IsValid { year, month, day := 1 } := by
  refine ⟨h, le_rfl, ?_⟩
  have hlength := (monthLength_bounds year month).1
  dsimp only
  omega

/-- The date after a date that exists exists. -/
theorem isValid_next (hd : d.IsValid) : d.next.IsValid := by
  obtain ⟨hmore, hnext⟩ | ⟨-, hmonth, hnext⟩ | ⟨-, -, hnext⟩ := next_cases hd <;> rw [hnext]
  · exact ⟨hd.1, by have := hd.2.1; dsimp only; omega, by dsimp only; omega⟩
  · exact isValid_first ⟨by have := hd.1.1; omega, by omega⟩
  · exact isValid_first (by decide)

/-- **The next date is a day later.** -/
theorem toDays_next (hd : d.IsValid) : d.next.toDays = d.toDays + 1 := by
  rw [toDays_eq_monthStart (isValid_next hd).1, toDays_eq_monthStart hd.1]
  obtain ⟨-, hnext⟩ | ⟨hlast, -, hnext⟩ | ⟨hlast, hmonth, hnext⟩ := next_cases hd <;> rw [hnext]
  · -- the day counts on in the same month
    change monthStart d.monthNumber + (d.day + 1) - 1 = monthStart d.monthNumber + d.day - 1 + 1
    omega
  · have hnumber : monthNumber { d with month := d.month + 1, day := 1 } = d.monthNumber + 1 := by
      rw [monthNumber, monthNumber]
      dsimp only
      omega
    rw [hnumber, monthStart_monthNumber_succ hd.1]
    dsimp only
    omega
  · have hnumber : monthNumber { year := d.year + 1, month := 1, day := 1 } =
        d.monthNumber + 1 := by
      rw [monthNumber, monthNumber]
      dsimp only
      omega
    rw [hnumber, monthStart_monthNumber_succ hd.1]
    dsimp only
    omega

/-- **The date of the next day is the next date.** -/
theorem ofDays_succ (n : Int) : ofDays (n + 1) = (ofDays n).next := by
  have hdays : (ofDays n).next.toDays = n + 1 := by
    rw [toDays_next (isValid_ofDays n), toDays_ofDays]
  rw [← hdays, ofDays_toDays (isValid_next (isValid_ofDays n))]

/-! ### Consecutive dates -/

/-- **Day numbers keep the order of dates**, in both directions. -/
theorem toDays_lt_toDays_iff (hd : d.IsValid) (he : e.IsValid) : d.toDays < e.toDays ↔ d < e := by
  refine ⟨fun h => ?_, toDays_lt_toDays hd he⟩
  rcases lt_or_lt_of_ne (ne_of_apply_ne toDays h.ne) with hlt | hgt
  · exact hlt
  · exact absurd (toDays_lt_toDays he hd hgt) h.asymm

/-- **A date is in a year or a later one** if its day is not before the first of January. -/
theorem le_year_iff (hd : d.IsValid) (year : Int) :
    year ≤ d.year ↔ toDays { year, month := 1, day := 1 } ≤ d.toDays := by
  have hfirst : IsValid { year, month := 1, day := 1 } := isValid_first (by decide)
  have hbefore : d < { year, month := 1, day := 1 } ↔ d.year < year := by
    obtain ⟨⟨hmonth, -⟩, hday, -⟩ := hd
    -- in the year itself nothing is before the first month, or before the first day of a month
    rw [lt_def]
    dsimp only
    omega
  rw [← Int.not_lt, ← Int.not_lt, toDays_lt_toDays_iff hd hfirst, hbefore]

/-- **Consecutive dates**: the second is later, and no date that exists is between them. -/
def IsRightBefore (d e : Date) : Prop :=
  d < e ∧ ∀ f : Date, f.IsValid → d < f → ¬f < e

/-- **Dates are consecutive if their day numbers are.** -/
theorem isRightBefore_iff (hd : d.IsValid) (he : e.IsValid) :
    d.IsRightBefore e ↔ e.toDays = d.toDays + 1 := by
  constructor
  · rintro ⟨hlt, hnone⟩
    have hlater := toDays_lt_toDays hd he hlt
    -- the date of the day after the first would be between them, were it not the second
    have hnext := hnone (ofDays (d.toDays + 1)) (isValid_ofDays _)
    rw [← toDays_lt_toDays_iff hd (isValid_ofDays _), ← toDays_lt_toDays_iff (isValid_ofDays _) he,
      toDays_ofDays] at hnext
    omega
  · intro hsucc
    refine ⟨(toDays_lt_toDays_iff hd he).mp (by omega), fun f hf hdf hfe => ?_⟩
    have hafter := toDays_lt_toDays hd hf hdf
    have hbefore := toDays_lt_toDays hf he hfe
    omega

/-! ### The closed forms and the calendar -/

/-- **Dates and day numbers correspond.** Every day number leads to a date that exists and comes
back from it, and every date that exists comes back from its day number. -/
theorem dates_and_days_correspond :
    (∀ n, (ofDays n).IsValid ∧ (ofDays n).toDays = n) ∧
      ∀ d : Date, d.IsValid → ofDays d.toDays = d :=
  ⟨fun n => ⟨isValid_ofDays n, toDays_ofDays n⟩, fun _ => ofDays_toDays⟩

/-- The leap day that ends a cycle, in the year 2000 and in the year -400. -/
theorem dates_and_days_correspond_leapDay :
    let late : Date := { year := 2000, month := 2, day := 29 }
    let early : Date := { year := -400, month := 2, day := 29 }
    late.IsValid ∧ ofDays 11016 = late ∧ early.IsValid ∧ ofDays (-865566) = early := by
  intro late early
  have hlate : late.IsValid := by decide
  have hearly : early.IsValid := by decide
  exact ⟨hlate, dates_and_days_correspond.2 late hlate, hearly,
    dates_and_days_correspond.2 early hearly⟩

/-- **Day numbers follow the calendar.** They start with the first of January 1970, the next number
has the next date, and between dates that exist they keep the order and step by one from each
to the one right after it. -/
theorem days_follow_calendar :
    ofDays 0 = { year := 1970, month := 1, day := 1 } ∧
      (∀ n, ofDays (n + 1) = (ofDays n).next) ∧
      ∀ d e : Date, d.IsValid → e.IsValid →
        (d < e ↔ d.toDays < e.toDays) ∧
        (d.IsRightBefore e ↔ e.toDays = d.toDays + 1) ∧
        (e = d.next ↔ e.toDays = d.toDays + 1) := by
  refine ⟨by decide, ofDays_succ, fun d e hd he =>
    ⟨(toDays_lt_toDays_iff hd he).symm, isRightBefore_iff hd he, ?_⟩⟩
  constructor
  · rintro rfl
    exact toDays_next hd
  · intro hsucc
    exact eq_of_toDays_eq he (isValid_next hd) (hsucc.trans (toDays_next hd).symm)

/-- The year -100 is no leap year: the first of March is right after the 28th of February. -/
theorem days_follow_calendar_century :
    let february : Date := { year := -100, month := 2, day := 28 }
    let march : Date := { year := -100, month := 3, day := 1 }
    february.IsValid ∧ march.IsValid ∧ february.IsRightBefore march ∧
      march.toDays = february.toDays + 1 := by
  intro february march
  have hfebruary : february.IsValid := by decide
  have hmarch : march.IsValid := by decide
  have hnext : march = february.next := by decide
  obtain ⟨-, hconsecutive, hstep⟩ := days_follow_calendar.2.2 february march hfebruary hmarch
  have hsucc := hstep.mp hnext
  exact ⟨hfebruary, hmarch, hconsecutive.mpr hsucc, hsucc⟩

end Date

end CivilTime
