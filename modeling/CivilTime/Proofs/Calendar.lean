import CivilTime.Calendar
import Mathlib

/-!
# Day numbers

The two closed forms of `CivilTime.Calendar` – from a date to its day number and back – are
held against the calendar here. Neither of them mentions the length of a month in so many
words, and one of them divides by 1460 where a reader expects four years to have 1461 days.

The way through is to **count months** instead of dates. A date lies in the month of a
number (`CivilTime.Date.monthNumber`), and a month starts at a day
(`CivilTime.Date.monthStart`). All that the calendar says is then one equation, that the next
month starts `CivilTime.monthLength` days later
(`CivilTime.Date.monthStart_monthNumber_succ`), and everything below follows from it:

| | theorem |
|---|---|
| later dates have greater day numbers | `CivilTime.Date.toDays_lt_toDays` |
| every day number is the number of a date that exists | `CivilTime.Date.isValid_ofDays` |
| from a day number to its date and back | `CivilTime.Date.toDays_ofDays` |
| from a date that exists to its day number and back | `CivilTime.Date.ofDays_toDays` |

The last of these needs no arithmetic of its own: a date is found again because day numbers
tell dates apart.
-/

namespace CivilTime

namespace Date

/-! ### Years that start with March -/

/-- The days from the first of March of the year 0 to the first of March of a year. -/
def daysBeforeMarch (year : Int) : Int :=
  365 * year + year / 4 - year / 100 + year / 400

/-- Cycles, and then the years of one cycle, are years after all. -/
theorem cycle_add_daysBeforeYear (year : Int) :
    year / cycleYears * cycleDays + daysBeforeYear (year - year / cycleYears * cycleYears) =
      daysBeforeMarch year := by
  rw [cycleYears, cycleDays, daysBeforeYear, daysBeforeMarch]
  omega

/-- Every cycle has as many days. -/
theorem daysBeforeMarch_add_cycles (year k : Int) :
    daysBeforeMarch (year + k * cycleYears) = daysBeforeMarch year + k * cycleDays := by
  rw [cycleYears, cycleDays, daysBeforeMarch, daysBeforeMarch]
  omega

/-- The first years of all are those of a cycle. -/
theorem daysBeforeMarch_of_lt {year : Int} (h : 0 ≤ year ∧ year < cycleYears) :
    daysBeforeMarch year = daysBeforeYear year := by
  rw [cycleYears] at h
  rw [daysBeforeMarch, daysBeforeYear]
  omega

/-- The year that ends with the February of a leap year has a day more. -/
theorem daysBeforeMarch_succ (year : Int) :
    daysBeforeMarch (year + 1) =
      daysBeforeMarch year + if IsLeapYear (year + 1) then 366 else 365 := by
  rw [daysBeforeMarch, daysBeforeMarch]
  by_cases h : IsLeapYear (year + 1)
  · rw [if_pos h]
    rw [IsLeapYear] at h
    omega
  · rw [if_neg h]
    rw [IsLeapYear] at h
    omega

/-! ### Months, counted through -/

/-- The number of the month of a date, where the March of the year 0 is month 0. -/
def monthNumber (d : Date) : Int :=
  12 * d.year + d.month - 3

/-- The day number of the first day of a month. -/
def monthStart (number : Int) : Int :=
  daysBeforeMarch (number / 12) + daysBeforeMonth (number % 12) - epochShift

/-- The start of a month, by its year and its place in it, both counted from March. -/
theorem monthStart_add {year month : Int} (h : 0 ≤ month ∧ month < 12) :
    monthStart (12 * year + month) = daysBeforeMarch year + daysBeforeMonth month - epochShift := by
  have hyear : (12 * year + month) / 12 = year := by omega
  have hmonth : (12 * year + month) % 12 = month := by omega
  rw [monthStart, hyear, hmonth]

/-- **A day number is that of the month and the place in the month.** -/
theorem toDays_eq_monthStart {d : Date} (h : 1 ≤ d.month ∧ d.month ≤ 12) :
    d.toDays = monthStart d.monthNumber + d.day - 1 := by
  have hnumber : d.monthNumber =
      12 * (if d.month ≤ 2 then d.year - 1 else d.year) + (d.month + 9) % 12 := by
    rw [monthNumber]
    split_ifs <;> omega
  rw [hnumber, monthStart_add (by omega), ← cycle_add_daysBeforeYear, toDays]
  omega

/-- **The calendar in one equation**: the next month starts when the days of this one are
over. -/
theorem monthStart_monthNumber_succ {d : Date} (h : 1 ≤ d.month ∧ d.month ≤ 12) :
    monthStart (d.monthNumber + 1) = monthStart d.monthNumber + monthLength d.year d.month := by
  obtain ⟨year, month, day⟩ := d
  obtain ⟨h1, h12⟩ : 1 ≤ month ∧ month ≤ 12 := h
  change monthStart (12 * year + month - 3 + 1) =
    monthStart (12 * year + month - 3) + monthLength year month
  rcases eq_or_ne month 2 with rfl | hmonth
  · -- February ends a year that started with March, so the leap years come in here
    have hthis : 12 * year + 2 - 3 = 12 * (year - 1) + 11 := by omega
    have hnext : 12 * year + 2 - 3 + 1 = 12 * year + 0 := by omega
    have hyear := daysBeforeMarch_succ (year - 1)
    rw [sub_add_cancel] at hyear
    rw [hnext, hthis, monthStart_add (by decide), monthStart_add (by decide), hyear]
    by_cases hleap : IsLeapYear year
    · simp only [daysBeforeMonth, monthLength, hleap, and_self, if_true]
      omega
    · simp only [daysBeforeMonth, monthLength, hleap, and_false, if_false]
      omega
  · obtain ⟨y, m, hthis, hm, hmonths⟩ : ∃ y m, 12 * year + month - 3 = 12 * y + m ∧
        (0 ≤ m ∧ m < 11) ∧ m = (month + 9) % 12 :=
      ⟨(12 * year + month - 3) / 12, (month + 9) % 12, by omega, by omega, rfl⟩
    rw [hthis, add_assoc, monthStart_add (by omega), monthStart_add (by omega), hmonths]
    simp only [daysBeforeMonth, monthLength, hmonth, false_and, if_false]
    interval_cases month <;> simp at hmonth ⊢ <;> omega

/-- Months follow each other. -/
theorem strictMono_monthStart : StrictMono monthStart := by
  refine strictMono_int_of_lt_succ fun number => ?_
  -- every number is that of a month of some year, so the calendar's equation applies
  obtain ⟨d, hd, rfl⟩ : ∃ d : Date, (1 ≤ d.month ∧ d.month ≤ 12) ∧ d.monthNumber = number :=
    ⟨⟨(number + 2) / 12, (number + 2) % 12 + 1, 1⟩, by dsimp only; omega,
      by unfold monthNumber; dsimp only; omega⟩
  rw [monthStart_monthNumber_succ hd]
  have hlength := (monthLength_bounds d.year d.month).1
  omega

/-! ### The order of dates -/

instance : LT Date where
  lt d e := d.year < e.year ∨ d.year = e.year ∧ (d.month < e.month ∨ d.month = e.month ∧ d.day < e.day)

theorem lt_def {d e : Date} :
    d < e ↔ d.year < e.year ∨
      d.year = e.year ∧ (d.month < e.month ∨ d.month = e.month ∧ d.day < e.day) :=
  Iff.rfl

/-- Of two different dates one is earlier. -/
theorem lt_or_lt_of_ne {d e : Date} (h : d ≠ e) : d < e ∨ e < d := by
  obtain ⟨y, m, a⟩ := d
  obtain ⟨y', m', a'⟩ := e
  rw [lt_def, lt_def]
  dsimp only
  by_contra hcon
  exact h (by congr 1 <;> omega)

/-- A date that exists lies before the next month. -/
theorem toDays_lt_monthStart_succ {d : Date} (hd : d.IsValid) :
    d.toDays < monthStart (d.monthNumber + 1) := by
  rw [toDays_eq_monthStart hd.1, monthStart_monthNumber_succ hd.1]
  have hday := hd.2.2
  omega

/-- **Later dates have greater day numbers.** -/
theorem toDays_lt_toDays {d e : Date} (hd : d.IsValid) (he : e.IsValid) (h : d < e) :
    d.toDays < e.toDays := by
  have hmonths := hd.1
  have hmonths' := he.1
  rcases lt_trichotomy d.monthNumber e.monthNumber with hlt | heq | hgt
  · have hnext : monthStart (d.monthNumber + 1) ≤ monthStart e.monthNumber :=
      strictMono_monthStart.monotone (by omega)
    have hday := he.2.1
    calc
      d.toDays < monthStart (d.monthNumber + 1) := toDays_lt_monthStart_succ hd
      _ ≤ e.toDays := by rw [toDays_eq_monthStart he.1]; omega
  · rw [toDays_eq_monthStart hd.1, toDays_eq_monthStart he.1, heq]
    rw [monthNumber, monthNumber] at heq
    rw [lt_def] at h
    omega
  · rw [monthNumber, monthNumber] at hgt
    rw [lt_def] at h
    omega

/-- Day numbers tell dates apart. -/
theorem eq_of_toDays_eq {d e : Date} (hd : d.IsValid) (he : e.IsValid)
    (h : d.toDays = e.toDays) : d = e := by
  by_contra hne
  rcases lt_or_lt_of_ne hne with hlt | hlt
  · exact absurd h (toDays_lt_toDays hd he hlt).ne
  · exact absurd h.symm (toDays_lt_toDays he hd hlt).ne

/-! ### From day numbers to dates -/

/-- A day of a cycle by centuries, then groups of four years, then years: the year of the
cycle comes out of the closed form. The last year of a group may have 366 days, except in
the last group of a century; the last century is complete again. -/
theorem yearOfCycle_eq {d century group year rest : Int}
    (hd : d = 36524 * century + 1461 * group + 365 * year + rest)
    (hcentury : 0 ≤ century ∧ century ≤ 3) (hgroup : 0 ≤ group ∧ group ≤ 24)
    (hyear : 0 ≤ year ∧ year ≤ 3) (hrest : 0 ≤ rest ∧ (rest < 365 ∨ year = 3 ∧ rest = 365))
    (hlast : 1461 * group + 365 * year + rest < 36524 ∨ century = 3) :
    (d - d / 1460 + d / 36524 - d / 146096) / 365 = 100 * century + 4 * group + year := by
  rcases (by omega : d = 146096 ∨ d < 146096) with rfl | hlt
  · omega
  · have hcenturies : d / 36524 = century := by omega
    have hcycles : d / 146096 = 0 := by omega
    -- the divisor 1460 takes out one day too many, late in a group and never across a year
    have hgroups : d / 1460 = 25 * century + group
        + (24 * century + group + 365 * year + rest) / 1460 := by omega
    rw [hcenturies, hcycles, hgroups]
    omega

/-- The days before a year of a cycle, by centuries, groups of four years and years. -/
theorem daysBeforeYear_eq {century group year : Int} (hgroup : 0 ≤ group ∧ group ≤ 24)
    (hyear : 0 ≤ year ∧ year ≤ 3) :
    daysBeforeYear (100 * century + 4 * group + year) =
      36524 * century + 1461 * group + 365 * year := by
  have hfours : (100 * century + 4 * group + year) / 4 = 25 * century + group := by omega
  have hhundreds : (100 * century + 4 * group + year) / 100 = century := by omega
  rw [daysBeforeYear, hfours, hhundreds]
  omega

/-- **The year of a day of a cycle**: it has started, and the next one has not. -/
theorem yearOfCycle_spec {d : Int} (h0 : 0 ≤ d) (h1 : d < cycleDays) :
    ∃ year, (d - d / 1460 + d / 36524 - d / 146096) / 365 = year ∧ (0 ≤ year ∧ year < 400) ∧
      daysBeforeYear year ≤ d ∧
      d < daysBeforeYear year + if IsLeapYear (year + 1) then 366 else 365 := by
  rw [cycleDays] at h1
  -- centuries first; the last day of the cycle is the 36525th of the last of them
  obtain ⟨century, e, hcentury, he, hlast, rfl⟩ : ∃ century e : Int,
      (0 ≤ century ∧ century ≤ 3) ∧ (0 ≤ e ∧ e ≤ 36524) ∧ (e < 36524 ∨ century = 3) ∧
        d = 36524 * century + e := by
    rcases (by omega : d = 146096 ∨ d < 146096) with rfl | hlt
    · exact ⟨3, 36524, by decide⟩
    · exact ⟨d / 36524, d % 36524, by omega, by omega, by omega, by omega⟩
  obtain ⟨group, f, hgroup, hf, rfl⟩ : ∃ group f : Int,
      (0 ≤ group ∧ group ≤ 24) ∧ (0 ≤ f ∧ f ≤ 1460) ∧ e = 1461 * group + f :=
    ⟨e / 1461, e % 1461, by omega, by omega, by omega⟩
  obtain ⟨year, rest, hyear, hrest, rfl⟩ : ∃ year rest : Int,
      (0 ≤ year ∧ year ≤ 3) ∧ (0 ≤ rest ∧ (rest < 365 ∨ year = 3 ∧ rest = 365)) ∧
        f = 365 * year + rest := by
    rcases (by omega : f = 1460 ∨ f < 1460) with rfl | hlt
    · exact ⟨3, 365, by decide⟩
    · exact ⟨f / 365, f % 365, by omega, by omega, by omega⟩
  refine ⟨100 * century + 4 * group + year,
    yearOfCycle_eq (by omega) hcentury hgroup hyear hrest (by omega), by omega, ?_⟩
  rw [daysBeforeYear_eq hgroup hyear]
  refine ⟨by omega, ?_⟩
  by_cases hleap : IsLeapYear (100 * century + 4 * group + year + 1)
  · rw [if_pos hleap]
    omega
  · -- a group that ends without a leap day is the last of its century, which then is short
    have hshort : rest < 365 := by
      by_contra hcon
      refine hleap ⟨by omega, ?_⟩
      rcases (by omega : group < 24 ∨ group = 24) with hlt | rfl
      · exact Or.inl (by omega)
      · exact Or.inr (by omega)
    rw [if_neg hleap]
    omega

/-- The date of a day number, when its cycle, the year in it, the day of that year and the
month are known. -/
theorem ofDays_of_parts {n cycle d year dayOfYear month : Int}
    (hcycle : (n + epochShift) / cycleDays = cycle) (hd : n + epochShift - cycle * cycleDays = d)
    (hyear : (d - d / 1460 + d / 36524 - d / 146096) / 365 = year)
    (hday : d - daysBeforeYear year = dayOfYear) (hmonth : (5 * dayOfYear + 2) / 153 = month)
    (hrange : 0 ≤ month ∧ month < 12) :
    (1 ≤ (ofDays n).month ∧ (ofDays n).month ≤ 12) ∧
      (ofDays n).monthNumber = 12 * (year + cycle * cycleYears) + month ∧
      (ofDays n).day = dayOfYear - daysBeforeMonth month + 1 := by
  rw [monthNumber, ofDays]
  simp only [hcycle, hd, hyear, hday, hmonth, and_true]
  split_ifs <;> omega

/-- **Where a day number leads**: to one of the twelve months, to its place in that month, and
not to the next one. -/
theorem ofDays_spec (n : Int) :
    (1 ≤ (ofDays n).month ∧ (ofDays n).month ≤ 12) ∧ 1 ≤ (ofDays n).day ∧
      n = monthStart (ofDays n).monthNumber + (ofDays n).day - 1 ∧
      n < monthStart ((ofDays n).monthNumber + 1) := by
  obtain ⟨cycle, hcycle⟩ : ∃ cycle, (n + epochShift) / cycleDays = cycle := ⟨_, rfl⟩
  obtain ⟨d, hd⟩ : ∃ d, n + epochShift - cycle * cycleDays = d := ⟨_, rfl⟩
  have hcycleRange : 0 ≤ d ∧ d < cycleDays := by
    rw [cycleDays] at *
    omega
  obtain ⟨year, hyear, hyearRange, hstart, hend⟩ := yearOfCycle_spec hcycleRange.1 hcycleRange.2
  obtain ⟨dayOfYear, hday⟩ : ∃ dayOfYear, d - daysBeforeYear year = dayOfYear := ⟨_, rfl⟩
  obtain ⟨month, hmonth⟩ : ∃ month, (5 * dayOfYear + 2) / 153 = month := ⟨_, rfl⟩
  have hlength : dayOfYear ≤ 365 := by
    split_ifs at hend <;> omega
  have hrange : 0 ≤ month ∧ month < 12 := by omega
  obtain ⟨hvalid, hnumber, hplace⟩ := ofDays_of_parts hcycle hd hyear hday hmonth hrange
  -- the years before this one, with all the cycles before its own
  have hbefore : daysBeforeMarch (year + cycle * cycleYears) =
      cycle * cycleDays + daysBeforeYear year := by
    rw [daysBeforeMarch_add_cycles, daysBeforeMarch_of_lt hyearRange, add_comm]
  have hleap : IsLeapYear (year + cycle * cycleYears + 1) ↔ IsLeapYear (year + 1) := by
    rw [add_right_comm, isLeapYear_add_cycles]
  rw [hnumber, hplace]
  refine ⟨hvalid, ?_, ?_, ?_⟩
  · rw [daysBeforeMonth]
    omega
  · rw [monthStart_add hrange, hbefore]
    omega
  · -- February is the twelfth month here, and the next month is that of the next year
    rcases (by omega : month < 11 ∨ month = 11) with hlt | rfl
    · rw [add_assoc, monthStart_add (by omega), hbefore]
      rw [daysBeforeMonth]
      omega
    · have hnext : 12 * (year + cycle * cycleYears) + 11 + 1 =
          12 * (year + cycle * cycleYears + 1) + 0 := by omega
      rw [hnext, monthStart_add (by decide), daysBeforeMarch_succ, hbefore]
      simp only [hleap]
      rw [daysBeforeMonth]
      omega

/-- **Every day number is the number of a date that exists.** -/
theorem isValid_ofDays (n : Int) : (ofDays n).IsValid := by
  obtain ⟨hmonth, hday, hplace, hnext⟩ := ofDays_spec n
  rw [monthStart_monthNumber_succ hmonth] at hnext
  exact ⟨hmonth, hday, by omega⟩

/-- **From a day number to its date and back.** -/
theorem toDays_ofDays (n : Int) : (ofDays n).toDays = n := by
  obtain ⟨hmonth, -, hplace, -⟩ := ofDays_spec n
  rw [toDays_eq_monthStart hmonth, ← hplace]

/-- **From a date that exists to its day number and back.** -/
theorem ofDays_toDays {d : Date} (hd : d.IsValid) : ofDays d.toDays = d :=
  eq_of_toDays_eq (isValid_ofDays _) hd (toDays_ofDays _)

end Date

end CivilTime
