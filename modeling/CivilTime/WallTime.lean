import CivilTime.Calendar
import CivilTime.Instant
import CivilTime.Text.Align

/-!
# Wall time

What a clock on the wall and the calendar beside it show: a date, an hour, a minute
and a second, to which the nanoseconds of the second are added. Which instant that is
depends on the zone the wall stands in, and some walls never show some wall times.

Nothing is checked here. A wall time that a calendar and a clock can show at all is
`CivilTime.WallTime.IsShowable`: hour 30 or the 31st of April can be written down, but
no clock shows them.

* `CivilTime.WallTime.toSeconds`: the wall time as if it were Universal Time;
* `CivilTime.WallTime.ofSeconds`: the way back.
-/

namespace CivilTime

/-- A wall time as it is written. Fields that are left out stand at the start of the
year 0. -/
structure WallTime where
  year : Int := 0
  month : Int := 1
  day : Int := 1
  hour : Int := 0
  minute : Int := 0
  second : Int := 0
  nanoseconds : Int := 0
  deriving DecidableEq, Repr

namespace WallTime

/-- The date part. -/
def date (w : WallTime) : Date :=
  { year := w.year, month := w.month, day := w.day }

/-- The fields, from the year down. -/
def toList (w : WallTime) : List Int :=
  [w.year, w.month, w.day, w.hour, w.minute, w.second, w.nanoseconds]

/-- The wall time of its fields, from the year down; those that are left out keep their
defaults, and there are no more than seven. -/
def ofList? (fields : List Int) : Option WallTime :=
  if fields.length ≤ 7 then
    some
      { year := fields.getD 0 0
        month := fields.getD 1 1
        day := fields.getD 2 1
        hour := fields.getD 3 0
        minute := fields.getD 4 0
        second := fields.getD 5 0
        nanoseconds := fields.getD 6 0 }
  else none

/-- The whole microseconds of the second. -/
def microsecond (w : WallTime) : Int :=
  w.nanoseconds / 1000

/-- The clock part is one that a clock shows. -/
def IsOnClock (w : WallTime) : Prop :=
  (0 ≤ w.hour ∧ w.hour ≤ 23) ∧ (0 ≤ w.minute ∧ w.minute ≤ 59) ∧ (0 ≤ w.second ∧ w.second ≤ 59)

instance (w : WallTime) : Decidable w.IsOnClock :=
  inferInstanceAs (Decidable (_ ∧ _))

/-- **The wall times that can be shown**: an existing date, and a time of day. -/
def IsShowable (w : WallTime) : Prop :=
  w.IsOnClock ∧ w.date.IsValid

instance (w : WallTime) : Decidable w.IsShowable :=
  inferInstanceAs (Decidable (_ ∧ _))

/-- **The wall seconds**: the wall time counted as if it were Universal Time. -/
def toSeconds (w : WallTime) : Int :=
  w.date.toDays * secondsPerDay + w.hour * 3600 + w.minute * 60 + w.second

/-- The wall time of a count of wall seconds. -/
def ofSeconds (wall nanoseconds : Int) : WallTime :=
  let date := Date.ofDays (wall / secondsPerDay)
  let secondOfDay := wall % secondsPerDay
  { year := date.year
    month := date.month
    day := date.day
    hour := secondOfDay / 3600
    minute := secondOfDay % 3600 / 60
    second := secondOfDay % 3600 % 60
    nanoseconds }

/-- The wall time as text, to the second: four places for the year and two for
everything else. -/
def text (w : WallTime) : String :=
  Text.zeroPadded 4 w.year ++ "-" ++ Text.zeroPadded 2 w.month ++ "-" ++ Text.zeroPadded 2 w.day
    ++ " " ++ Text.zeroPadded 2 w.hour ++ ":" ++ Text.zeroPadded 2 w.minute
    ++ ":" ++ Text.zeroPadded 2 w.second

end WallTime

end CivilTime
