import CivilTime.ArgumentList
import CivilTime.DayTable
import CivilTime.Offset.Reader
import CivilTime.Report.Layout
import CivilTime.Report.Literal

/-!
# Reports

A report puts the rules of this library before the eye of a reader: argument lists and
what becomes of them, fixed offsets and their texts, wall times and the instants they
are resolved to, and two days on which the clocks of a zone are changed.

The cases come from outside. Each section is the lines that it prints; a failure that the
section does not itself report takes the place of all of them.

* `CivilTime.Report.argumentsSection`, `CivilTime.Report.offsetsSection`,
  `CivilTime.Report.resolutionSection`, `CivilTime.Report.daysSection`: the sections;
* `CivilTime.Report.full`: the whole report.
-/

namespace CivilTime.Report

/-! ### Argument lists -/

/-- An argument list under a label. -/
structure ArgumentCase where
  label : String
  args : List Literal

/-- The argument lists of a report: those that are accepted, and those that are refused, by
the reason. -/
structure ArgumentCases where
  valid : List ArgumentCase := []
  countFailures : List ArgumentCase := []
  rangeFailures : List ArgumentCase := []
  typeFailures : List ArgumentCase := []

/-- What becomes of an argument list. -/
def ArgumentCase.outcome (c : ArgumentCase) : Except Failure WallTime :=
  ArgumentList.normalize (c.args.map Literal.toArgument)

/-- A wall time with all of its digits. -/
def fullText (w : WallTime) : String :=
  w.text ++ "." ++ Text.zeroPadded 9 w.nanoseconds

/-- The row of an argument list that is expected to be accepted. -/
def acceptedRow (c : ArgumentCase) : Except Failure (List String) := do
  return [c.label, (Literal.list c.args).toText, fullText (← c.outcome)]

/-- The row of an argument list that is expected to be refused. -/
def refusedRow (c : ArgumentCase) : Except Failure (List String) := do
  let shown ←
    match c.outcome with
    | .ok _ => pure "ACCEPTED (unexpected)"
    | .error f =>
      match f.name? with
      | some name => pure (name ++ ": " ++ f.message.getD "")
      | none => throw f
  return [c.label, (Literal.list c.args).toText, shown]

/-- **The section on argument lists.** -/
def argumentsSection (cases : ArgumentCases) : Except Failure (List String) := do
  let accepted ← cases.valid.mapM acceptedRow
  let acceptedTable ← table ["Case", "Args", "Components"] accepted
  let refused ←
    (cases.countFailures ++ cases.rangeFailures ++ cases.typeFailures).mapM refusedRow
  let refusedTable ← table ["Case", "Args", "Error"] refused
  return banner "ARGUMENT NORMALIZATION" ++ heading "Accepted" ++ acceptedTable
    ++ heading "Rejected" ++ refusedTable

/-! ### Fixed offsets -/

/-- A fixed offset and the text it is expected to have. -/
structure OffsetCase where
  seconds : Int
  expected : String

/-- The row of a fixed offset. -/
def OffsetCase.row (c : OffsetCase) : List String :=
  let shown := Offset.fixedText c.seconds
  [toString c.seconds, shown,
    if shown = c.expected then "ok" else "MISMATCH (want " ++ c.expected ++ ")"]

/-- **The section on fixed offsets.** -/
def offsetsSection (cases : List OffsetCase) : Except Failure (List String) := do
  return banner "FIXED OFFSET RENDERING"
    ++ (← table ["Seconds", "Display", "Check"] (cases.map OffsetCase.row))

/-! ### Resolution -/

/-- The fields of a wall time in a zone, under a label. -/
structure ResolutionCase where
  label : String
  zone : String
  fields : List Int

/-- The wall time of a case, which has no more fields than there are. -/
def ResolutionCase.wall (c : ResolutionCase) : Except Failure WallTime :=
  match WallTime.ofList? c.fields with
  | some w => .ok w
  | none => .error .wrongType

/-- A second of Universal Time as text, if its year has at most four digits. Years are not
filled up with zeros. Seconds beyond 64 bits and years whose distance from 1900 is beyond
32 bits fail earlier and in their own ways. -/
def utcText (seconds : Int) : Except Failure String :=
  let w := WallTime.ofSeconds seconds 0
  if ¬(-9223372036854775808 ≤ seconds ∧ seconds ≤ 9223372036854775807) then .error .overflow
  else if ¬(-2147483648 ≤ w.year - 1900 ∧ w.year - 1900 ≤ 2147483647) then .error .system
  else if ¬(1 ≤ w.year ∧ w.year ≤ 9999) then .error .badValue
  else
    .ok (toString w.year ++ "-" ++ Text.zeroPadded 2 w.month ++ "-" ++ Text.zeroPadded 2 w.day
      ++ " " ++ Text.zeroPadded 2 w.hour ++ ":" ++ Text.zeroPadded 2 w.minute ++ ":"
      ++ Text.zeroPadded 2 w.second ++ " UTC")

/-- The row of a wall time: how many instants show it, and the one that is chosen. -/
def ResolutionCase.row (catalog : Catalog) (c : ResolutionCase) : Except Failure (List String) := do
  let wall ← c.wall
  let offset := Offset.named c.zone
  let zone ← catalog.zone offset
  let chosen ←
    match zone.resolve offset false wall with
    | .ok i => utcText i.seconds
    | .error f =>
      match f.name? with
      | some name => pure name
      | none => throw f
  return [c.label, c.zone, toString (zone.candidates wall).length, chosen]

/-- **The section on resolution.** -/
def resolutionSection (catalog : Catalog) (cases : List ResolutionCase) :
    Except Failure (List String) := do
  let rows ← cases.mapM (ResolutionCase.row catalog)
  return banner "ZONE RESOLUTION" ++ (← table ["Case", "Zone", "Candidates", "Resolved"] rows)

/-! ### Days -/

/-- A zone whose clocks are put forward and back. -/
def newYork : Offset := .named "America/New_York"

/-- **The section on days** with a gap and with a fold. -/
def daysSection (catalog : Catalog) : Except Failure (List String) := do
  let gap ← DayTable.text catalog newYork { year := 2022, month := 3, day := 13 }
  let fold ← DayTable.text catalog newYork { year := 2022, month := 11, day := 6 }
  return banner "DST DAYS" ++ heading "America/New_York 2022-03-13 (gap)" ++ [gap]
    ++ heading "America/New_York 2022-11-06 (fold)" ++ [fold]

/-! ### The whole report -/

/-- What a report is made from. -/
structure Cases where
  arguments : ArgumentCases := {}
  offsets : List OffsetCase := []
  resolutions : List ResolutionCase := []
  catalog : Catalog := {}

/-- **The whole report.** -/
def full (c : Cases) : Except Failure (List String) := do
  let argumentLines ← argumentsSection c.arguments
  let offsetLines ← offsetsSection c.offsets
  let resolutionLines ← resolutionSection c.catalog c.resolutions
  let dayLines ← daysSection c.catalog
  return banner "TIME-PRIMITIVES   --  VISUAL VERIFICATION REPORT"
    ++ ["    Fixture data: data/fixtures/scenarios/"]
    ++ argumentLines ++ offsetLines ++ resolutionLines ++ dayLines
    ++ banner "END OF REPORT" ++ [""]

end CivilTime.Report
