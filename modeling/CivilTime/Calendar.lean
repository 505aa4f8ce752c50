/-!
# The civil calendar

Dates of the proleptic Gregorian calendar, over all integer years: year 0 exists
and is a leap year, and the rules run backwards from it without end.

A date is named by year, month and day, and counted by its **day number**, the
number of days since the first of January 1970. Two closed forms lead from one to
the other, `CivilTime.Date.toDays` and `CivilTime.Date.ofDays`. Both count years from
March, so that the leap day is the last day of its year and the months before it
always start at the same day; and both work inside one **cycle** of 400 years,
after which the calendar repeats. A cycle has 146097 days, a whole number of weeks.

* `CivilTime.monthLength`: how many days a month has;
* `CivilTime.Date.IsValid`: the dates that exist;
* `CivilTime.Date.toDays`, `CivilTime.Date.ofDays`: a date and its day number;
* `CivilTime.weekday`, `CivilTime.Date.yearDay`: where a day stands in its week and
  in its year.
-/

namespace CivilTime

/-! ### Years and months -/

/-- The days of one 400-year cycle. -/
def cycleDays : Int := 146097

/-- The years of one cycle. -/
def cycleYears : Int := 400

/-- **Leap years**: every fourth year, but of the centuries only every fourth. -/
def IsLeapYear (year : Int) : Prop :=
  year % 4 = 0 ∧ (year % 100 ≠ 0 ∨ year % 400 = 0)

instance (year : Int) : Decidable (IsLeapYear year) :=
  inferInstanceAs (Decidable (_ ∧ _))

/-- Leap years repeat. -/
theorem isLeapYear_add_cycles (year k : Int) :
    IsLeapYear (year + k * cycleYears) ↔ IsLeapYear year := by
  rw [IsLeapYear, IsLeapYear, cycleYears]
  omega

/-- The number of days of a month. Months are numbered from 1, and the numbering
goes around: 0 is December again and -11 is January. Only the number 2 asks for the
leap year. -/
def monthLength (year month : Int) : Int :=
  if month = 2 ∧ IsLeapYear year then 29
  else if month % 12 = 2 then 28
  else if month % 12 = 4 ∨ month % 12 = 6 ∨ month % 12 = 9 ∨ month % 12 = 11 then 30
  else 31

/-- Between 28 and 31 days, whatever the month. -/
theorem monthLength_bounds (year month : Int) :
    28 ≤ monthLength year month ∧ monthLength year month ≤ 31 := by
  unfold monthLength
  omega

/-- The number of days of a month that has a place in the table of months: one of
the twelve, or one of the twelve before it. -/
def monthLength? (year month : Int) : Option Int :=
  if -11 ≤ month ∧ month ≤ 12 then some (monthLength year month) else none

/-! ### Dates -/

/-- A date as it is written; whether there is such a day is `Date.IsValid`. -/
structure Date where
  year : Int
  month : Int
  day : Int
  deriving DecidableEq, Repr

namespace Date

/-- **The dates that exist**: one of the twelve months, and one of its days. -/
def IsValid (d : Date) : Prop :=
  (1 ≤ d.month ∧ d.month ≤ 12) ∧ (1 ≤ d.day ∧ d.day ≤ monthLength d.year d.month)

instance (d : Date) : Decidable d.IsValid :=
  inferInstanceAs (Decidable (_ ∧ _))

/-- The day number of the first of March of the year 0, with its sign changed. -/
def epochShift : Int := 719468

/-- The days before the first of a month, in a year that starts with March; March is
month 0. -/
def daysBeforeMonth (marchMonth : Int) : Int :=
  (153 * marchMonth + 2) / 5

/-- The days before a year, in a cycle of years that start with March. -/
def daysBeforeYear (yearOfCycle : Int) : Int :=
  yearOfCycle * 365 + yearOfCycle / 4 - yearOfCycle / 100

/-- **The day number of a date**: cycles, then years, then months, then days. -/
def toDays (d : Date) : Int :=
  let year := if d.month ≤ 2 then d.year - 1 else d.year
  let cycle := year / cycleYears
  let yearOfCycle := year - cycle * cycleYears
  let dayOfYear := daysBeforeMonth ((d.month + 9) % 12) + d.day - 1
  cycle * cycleDays + (daysBeforeYear yearOfCycle + dayOfYear) - epochShift

/-- **The date of a day number.** The year of the cycle is the day of the cycle
divided by 365, after the leap days that lie before it have been taken out. -/
def ofDays (days : Int) : Date :=
  let shifted := days + epochShift
  let cycle := shifted / cycleDays
  let dayOfCycle := shifted - cycle * cycleDays
  let yearOfCycle :=
    (dayOfCycle - dayOfCycle / 1460 + dayOfCycle / 36524 - dayOfCycle / 146096) / 365
  let dayOfYear := dayOfCycle - daysBeforeYear yearOfCycle
  let marchMonth := (5 * dayOfYear + 2) / 153
  let day := dayOfYear - daysBeforeMonth marchMonth + 1
  let month := if marchMonth < 10 then marchMonth + 3 else marchMonth - 9
  let year := yearOfCycle + cycle * cycleYears
  { year := if month ≤ 2 then year + 1 else year, month, day }

/-- The place of a date in its year; the first of January is day 1. -/
def yearDay (d : Date) : Int :=
  d.toDays - toDays { year := d.year, month := 1, day := 1 } + 1

end Date

/-- The day of the week of a day number, 0 for Sunday. Day 0 was a Thursday. -/
def weekday (days : Int) : Int :=
  (days + 4) % 7

end CivilTime
