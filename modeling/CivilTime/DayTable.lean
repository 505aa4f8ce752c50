import CivilTime.Catalog
import CivilTime.Resolution

/-!
# Day tables

A **day table** shows a local day hour by hour: a row for every full hour of Universal
Time at which the calendar in the zone shows that date, with the local time next to it.
A row whose offset is not that of the row before is marked, so that an hour left out or
gone through twice catches the eye.

The hours are looked for from a day before the date to a day after it, both counted in
Universal Time: no zone is further away.

* `CivilTime.DayTable.rows`: the rows;
* `CivilTime.DayTable.text`: the table as text.
-/

namespace CivilTime.DayTable

/-- A row: a full hour, the local time, and what the zone says of the hour. -/
structure Row where
  seconds : Int
  wall : WallTime
  state : ZoneState
  /-- The offset is another than in the row before. -/
  marked : Bool
  deriving DecidableEq, Repr

/-- The seconds of an hour. -/
def secondsPerHour : Int := 3600

/-- The full hours from a day before a date to a day after it. -/
def hoursAround (date : Date) : List Int :=
  (List.range 72).map fun (i : Nat) =>
    date.toDays * secondsPerDay - secondsPerDay + secondsPerHour * (i : Int)

/-- The rows of the hours that show a date, where `previous` is the offset of the row
before. -/
def rowsFrom (z : Zone) (date : Date) (previous : Option Int) : List Int → List Row
  | [] => []
  | s :: rest =>
    let (wall, state) := z.decompose { seconds := s }
    if wall.date = date then
      { seconds := s, wall, state, marked := previous.any (· != state.utcOffset) }
        :: rowsFrom z date (some state.utcOffset) rest
    else rowsFrom z date previous rest

/-- **The rows of a day.** -/
def rows (z : Zone) (date : Date) : List Row :=
  rowsFrom z date none (hoursAround date)

/-! ### Text -/

/-- The line over the rows. -/
def header : String :=
  Text.alignLeft 16 "UTC" ++ "     " ++ Text.alignLeft 8 "local" ++ "  "
    ++ Text.alignLeft 6 "offset" ++ "  zone"

/-- A row as a line. -/
def Row.text (r : Row) : String :=
  let utc := WallTime.ofSeconds r.seconds 0
  Text.zeroPadded 4 utc.year ++ "-" ++ Text.zeroPadded 2 utc.month ++ "-"
    ++ Text.zeroPadded 2 utc.day ++ " " ++ Text.zeroPadded 2 utc.hour ++ ":"
    ++ Text.zeroPadded 2 utc.minute ++ Text.alignRight 3 (if r.marked then "*" else " ") ++ "  "
    ++ Text.zeroPadded 2 r.wall.hour ++ ":" ++ Text.zeroPadded 2 r.wall.minute ++ ":"
    ++ Text.zeroPadded 2 r.wall.second ++ "  "
    ++ Text.alignRight 6 (Offset.fixedText r.state.utcOffset) ++ "  " ++ r.state.abbreviation

/-- The lines of a day in a zone. -/
def lines (z : Zone) (date : Date) : List String :=
  header :: (rows z date).map Row.text

/-- **The table of a day** in the zone of an offset, if the zone tells all of the hours
around it. -/
def text (c : Catalog) (offset : Offset) (date : Date) : Except Failure String := do
  let zone ← c.zone offset
  let _ ← zone.tellAll (hoursAround date)
  return "\n".intercalate (lines zone date)

end CivilTime.DayTable
