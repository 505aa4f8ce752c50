import CivilTime.Zone

/-!
# From wall time to instants, and back

An instant has one wall time in a zone (`CivilTime.Zone.decompose`). A wall time may have
one instant, several – the clocks were put back over it – or none: the clocks were put
forward over it, or no clock shows it at all.

To find the instants of a wall time one would have to know the offset that was in force
at them, which is what is asked for. So the zone is **probed**: the offsets in force at
the wall seconds themselves, a day earlier and a day later are the offsets that may
apply, and each of them proposes one second more to look at. An offset that is in force
at the second it leads to is one of the answers.

* `CivilTime.Zone.candidates`: the instants of a wall time, in order;
* `CivilTime.Zone.search`: the same, by asking a zone that may refuse to tell;
* `CivilTime.Zone.resolve`: the first of them;
* `CivilTime.Zone.decompose`, `CivilTime.Zone.tellWall`: the wall time of an instant.
-/

namespace CivilTime.Zone

/-- The offsets in force around the wall seconds: a day before, at them, and a day
after. -/
def probedOffsets (z : Zone) (wall : Int) : List Int :=
  [z.utcOffset (wall - secondsPerDay), z.utcOffset wall, z.utcOffset (wall + secondsPerDay)]

/-- The offsets that may apply to a wall time: those found around it, and those in
force at the seconds that these lead to. -/
def possibleOffsets (z : Zone) (wall : Int) : List Int :=
  let probed := z.probedOffsets wall
  probed ++ probed.map fun offset => z.utcOffset (wall - offset)

/-- The instant that an offset leads to, if the offset is in force there. -/
def confirm? (z : Zone) (w : WallTime) (offset : Int) : Option Instant :=
  let seconds := w.toSeconds - offset
  if z.utcOffset seconds = offset then some { seconds, nanoseconds := w.nanoseconds } else none

/-- **The instants of a wall time** in a zone, in order, as far as the probes find
them. -/
def candidates (z : Zone) (w : WallTime) : List Instant :=
  if w.IsShowable then Instant.ascending ((z.possibleOffsets w.toSeconds).filterMap (z.confirm? w))
  else []

/-- The seconds that the zone is asked about on the way to the instants of a wall time, in
this order. -/
def askedSeconds (z : Zone) (wall : Int) : List Int :=
  [wall - secondsPerDay, wall, wall + secondsPerDay]
    ++ (z.possibleOffsets wall).map fun offset => wall - offset

/-- **The search for the instants of a wall time.** It fails if there is anything on the
way that the zone does not tell; for a wall time that is never shown nothing is asked. -/
def search (z : Zone) (w : WallTime) : Except Failure (List Instant) := do
  if w.IsShowable then
    let _ ← z.tellAll (z.askedSeconds w.toSeconds)
    return z.candidates w
  else return []

/-- **The instant of a wall time**: the earliest of them. `offset` is the name under which
the caller knows the zone, for the message; with `strict`, a wall time without an
instant counts as a defect and not as an answer. -/
def resolve (z : Zone) (offset : Offset) (strict : Bool) (w : WallTime) :
    Except Failure Instant := do
  match ← z.search w with
  | first :: _ => .ok first
  | [] => .error (if strict then .unmatched w offset else .unresolved w offset)

/-- **The wall time of an instant**, and what the zone says of it. -/
def decompose (z : Zone) (i : Instant) : WallTime × ZoneState :=
  let state := z.state i.seconds
  (WallTime.ofSeconds (i.seconds + state.utcOffset) i.nanoseconds, state)

/-- The wall time of an instant, by asking a zone that may refuse to tell. -/
def tellWall (z : Zone) (i : Instant) : Except Failure (WallTime × ZoneState) := do
  let _ ← z.tell i.seconds
  return z.decompose i

end CivilTime.Zone
