import CivilTime.ArgumentList
import CivilTime.Reading

/-!
# The array form

A reading as ten values in a fixed order, second first, then the larger fields, the
days of the week and of the year, summer time and the name of the zone. The array form
has no place for the fraction of a second, which is lost.

As a list of arguments (`CivilTime.ArrayForm.toArguments`) it is one of the shapes that
`CivilTime.ArgumentList.normalize` accepts; as a value it can be turned back into a wall
time directly (`CivilTime.ArrayForm.wall`).
-/

namespace CivilTime

/-- A reading without its fraction of a second. -/
structure ArrayForm where
  second : Int
  minute : Int
  hour : Int
  day : Int
  month : Int
  year : Int
  weekday : Int
  yearDay : Int
  isDst : Bool
  offset : Offset
  zoneName : String
  deriving DecidableEq, Repr

namespace ArrayForm

/-- The array form of a reading. -/
def ofReading (r : Reading) : ArrayForm :=
  { second := r.second, minute := r.minute, hour := r.hour
    day := r.day, month := r.month, year := r.year
    weekday := r.weekday, yearDay := r.yearDay, isDst := r.isDst
    offset := r.offset, zoneName := r.zoneName }

/-- The ten values, as arguments. -/
def toArguments (a : ArrayForm) : List Argument :=
  [.integer a.second, .integer a.minute, .integer a.hour, .integer a.day, .integer a.month,
    .integer a.year, .integer a.weekday, .integer a.yearDay, .boolean a.isDst, .text a.zoneName]

/-- The wall time of an array form, at a whole second. -/
def wall (a : ArrayForm) : WallTime :=
  { year := a.year, month := a.month, day := a.day
    hour := a.hour, minute := a.minute, second := a.second }

end ArrayForm

end CivilTime
