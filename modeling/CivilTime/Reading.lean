import CivilTime.Resolution

/-!
# Readings

An instant, read in a zone: the wall time there, what the zone says of the instant, and
all that can be told from the two – the day of the week and of the year, the name of
the zone at that moment.

A reading is made once (`CivilTime.Reading.ofInstant`) and then only looked at.
-/

namespace CivilTime

/-- An instant, read in a zone. -/
structure Reading where
  instant : Instant
  /-- The offset under which the zone is known. -/
  offset : Offset
  wall : WallTime
  state : ZoneState
  deriving DecidableEq, Repr

namespace Reading

/-- **Reading an instant** in a zone. -/
def ofInstant (z : Zone) (offset : Offset) (i : Instant) : Reading :=
  { instant := i, offset, wall := (z.decompose i).1, state := (z.decompose i).2 }

/-- The year of the date. -/
def year (r : Reading) : Int := r.wall.year

/-- The month of the date. -/
def month (r : Reading) : Int := r.wall.month

/-- The day of the month. -/
def day (r : Reading) : Int := r.wall.day

/-- The hour of the day. -/
def hour (r : Reading) : Int := r.wall.hour

/-- The minute of the hour. -/
def minute (r : Reading) : Int := r.wall.minute

/-- The second of the minute. -/
def second (r : Reading) : Int := r.wall.second

/-- The nanoseconds of the second. -/
def nanosecond (r : Reading) : Int := r.instant.nanoseconds

/-- The whole microseconds of the second. -/
def microsecond (r : Reading) : Int := r.wall.microsecond

/-- The day of the week, 0 for Sunday, told from the date. -/
def weekday (r : Reading) : Int := CivilTime.weekday r.wall.date.toDays

/-- The day of the year, from 1 on. -/
def yearDay (r : Reading) : Int := r.wall.date.yearDay

/-- Whether it is summer time. -/
def isDst (r : Reading) : Bool := r.state.isDst

/-- How far the zone is ahead of Universal Time at the instant. -/
def utcOffset (r : Reading) : Int := r.state.utcOffset

/-- Whether the instant is shown in Universal Time itself. -/
def isUtc (r : Reading) : Bool := r.offset.isUtc

/-- **The name of the zone at the instant**: the text of an offset that does not change,
and else the abbreviation in use. -/
def zoneName (r : Reading) : String :=
  match r.offset with
  | .utc => "UTC"
  | .fixed seconds => Offset.fixedText seconds
  | .localZone | .named _ => r.state.abbreviation

/-- The days of the week, from Sunday on. -/
def dayNames : List String :=
  ["sunday", "monday", "tuesday", "wednesday", "thursday", "friday", "saturday"]

/-- Whether it is the day of the week of this number. -/
def isWeekday (r : Reading) (number : Int) : Bool := r.weekday == number

/-- The names of the days of the week that it is. -/
def todayNames (r : Reading) : List String :=
  (dayNames.zipIdx.filter fun day => r.isWeekday day.2).map (·.1)

end Reading

end CivilTime
