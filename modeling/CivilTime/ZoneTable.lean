import CivilTime.Zone

/-!
# Zone tables

A region is stored as a **table**: the states that its clocks are ever in, and its
changes, each of which says when it happens and names its state by number. The table
does not say how much of an offset is summer time, only that some of it is. So the
**saving** of a state has to be found out from the changes around it.

A state of summer time is ahead of standard time by its saving, and the standard time is
that of the change before or, failing that, of the change after. The first place in the
table that tells a saving at all decides, and where none does it is an hour. The very
first change has nothing before it and is not looked at.

* `CivilTime.ZoneTable.saving`: the saving of a state;
* `CivilTime.ZoneTable.initialNumber`: the state before the first change;
* `CivilTime.ZoneTable.timeline`: the region that a table stores.
-/

namespace CivilTime

/-- A region as it is stored. The savings of its states are not part of it. -/
structure ZoneTable where
  states : List ZoneState
  /-- The changes, in the order of their times: a second and the number of a state. -/
  changes : List (Int × Nat) := []
  deriving DecidableEq, Repr

namespace ZoneTable

/-- The state of a number. -/
def state (t : ZoneTable) (number : Nat) : ZoneState :=
  t.states.getD number { utcOffset := 0, abbreviation := "", isDst := false }

/-- How far one state is ahead of another, if that is one of standard time; else 0. -/
def lead (t : ZoneTable) (number standard : Nat) : Int :=
  if (t.state standard).isDst then 0
  else (t.state number).utcOffset - (t.state standard).utcOffset

/-- An hour, the saving where nothing tells another. -/
def usualSaving : Int := 3600

/-- What one place in the table tells of the saving of a state, 0 being nothing: its lead
over the state before, else over the state after. The last of the states is not held
against the state after it. -/
def savingBetween (t : ZoneTable) (before number : Nat) (after? : Option Nat) : Int :=
  let lead := t.lead number before
  if lead ≠ 0 then lead
  else
    match after? with
    | some after => if number + 1 < t.states.length then t.lead number after else 0
    | none => 0

/-- What the first place that tells something tells of the saving of a state; 0 if there
is none. The list has the numbers of the states, change by change. -/
def savingAlong (t : ZoneTable) (number : Nat) : List Nat → Int
  | before :: current :: rest =>
    let found := if current = number then t.savingBetween before number rest.head? else 0
    if found ≠ 0 then found else savingAlong t number (current :: rest)
  | _ => 0

/-- **The saving of a state**: none for standard time. -/
def saving (t : ZoneTable) (number : Nat) : Int :=
  if (t.state number).isDst then
    let found := t.savingAlong number (t.changes.map (·.2))
    if found = 0 then usualSaving else found
  else 0

/-- The states with their savings. -/
def completeStates (t : ZoneTable) : List ZoneState :=
  t.states.zipIdx.map fun s => { s.1 with saving := t.saving s.2 }

/-- The number of the state before all changes: that of the first state of standard time, if
there is one. Without changes it is the last number. -/
def initialNumber (t : ZoneTable) : Nat :=
  if t.changes = [] then t.states.length - 1
  else (t.states.findIdx? fun state => !state.isDst).getD 0

/-- **The region of a table**, which is looked up by the clock. Its first change is thought to be
one from the offset of the first of the states. -/
def timeline (t : ZoneTable) : Timeline :=
  let complete : ZoneTable := { t with states := t.completeStates }
  { initial := complete.state t.initialNumber
    transitions := t.changes.map fun change =>
      { since := change.1, state := complete.state change.2 }
    lookup := .byClock (t.state 0).utcOffset }

end ZoneTable

end CivilTime
