import CivilTime.Failure
import CivilTime.Timeline

/-!
# Zones

A **zone** says of every second what the clocks there show: how far they are ahead of
Universal Time, under which abbreviation, and whether that is summer time.

Most zones are regions, whose clocks have been set again and again. What a region says of a
second is in its `CivilTime.Timeline`.

The look-up of a zone covers the years 1 to 9999, without a day at either end.
**Seconds beyond are answered a whole number of 400-year cycles nearer**, by
`CivilTime.cycleShift`: the calendar of those years is the same, and no zone is asked for a
year that it does not know.

What a zone says cannot always be told. A clock that is a day or more away from
Universal Time, or a day or more away from its own standard time, **is not told at
all**: whoever asks for such a second is refused. A clock that the offset in force puts beyond
the years 1 to 9999 overflows instead (`CivilTime.Zone.IsOnCalendar`); one that is told
stays within the day that is left at either end. Of several seconds that are asked for,
the first that is not told decides.

* `CivilTime.cycleShift`: the way of a second into the range;
* `CivilTime.Zone.state`, `CivilTime.Zone.utcOffset`: what a zone says of any second;
* `CivilTime.ZoneState.IsTellable`, `CivilTime.Zone.tell`, `CivilTime.Zone.tellAll`: what of
  that is told (`CivilTime.Zone.tell_eq_ok_iff`, `CivilTime.Zone.tellAll_eq_ok_iff`).
-/

namespace CivilTime

/-! ### The range of the look-up -/

/-- The first second that is looked up as it is: the second of January of the year 1. -/
def lookupMin : Int := Date.toDays { year := 1, month := 1, day := 2 } * secondsPerDay

/-- The last second that is looked up as it is: the start of the 30th of December 9999. -/
def lookupMax : Int := Date.toDays { year := 9999, month := 12, day := 30 } * secondsPerDay

/-- The seconds of one 400-year cycle. -/
def cycleSeconds : Int := cycleDays * secondsPerDay

theorem lookupMin_eq : lookupMin = -62135510400 := by decide

theorem lookupMax_eq : lookupMax = 253402128000 := by decide

theorem cycleSeconds_eq : cycleSeconds = 12622780800 := by decide

/-- Less than a day away from the range of the look-up, clocks can still be shown. -/
theorem clock_bounds_of_lookup {s offset : Int} (h : lookupMin ≤ s ∧ s ≤ lookupMax)
    (hoffset : IsWithinDay offset) : IsClockTime (s + offset) := by
  have hmin : lookupMin = clockMin + secondsPerDay := by decide
  have hmax : lookupMax + 2 * secondsPerDay = clockMax + 1 := by decide
  unfold IsWithinDay at hoffset
  unfold IsClockTime
  omega

/-- **The way into the range**, in whole cycles: what has to be added to a second so
that it can be looked up. -/
def cycleShift (s : Int) : Int :=
  if s < lookupMin then -((s - lookupMin) / cycleSeconds) * cycleSeconds
  else if lookupMax < s then (lookupMax - s) / cycleSeconds * cycleSeconds
  else 0

/-- The way into the range leads there. -/
theorem add_cycleShift_bounds (s : Int) :
    lookupMin ≤ s + cycleShift s ∧ s + cycleShift s ≤ lookupMax := by
  unfold cycleShift
  rw [lookupMin_eq, lookupMax_eq, cycleSeconds_eq]
  split
  · omega
  · split <;> omega

/-! ### Zones -/

/-- A zone: Universal Time, a fixed distance from it, or a region. -/
inductive Zone
  | utc
  | fixed (seconds : Int)
  | region (timeline : Timeline)
  deriving DecidableEq, Repr

namespace Zone

/-- The abbreviation of a fixed zone: `UTC`, followed by its distance where there is
one, to the second if need be. -/
def fixedAbbreviation (seconds : Int) : String :=
  if seconds = 0 then "UTC"
  else
    let size := (seconds.natAbs : Int)
    let minutes := Text.zeroPadded 2 (size / 3600) ++ ":" ++ Text.zeroPadded 2 (size % 3600 / 60)
    let rest := if size % 60 = 0 then "" else ":" ++ Text.zeroPadded 2 (size % 60)
    "UTC" ++ (if seconds < 0 then "-" else "+") ++ minutes ++ rest

/-- What a zone says of a second within the range of the look-up. -/
def stateInRange : Zone → Int → ZoneState
  | utc, _ => { utcOffset := 0, abbreviation := "UTC", isDst := false }
  | fixed seconds, _ =>
    { utcOffset := seconds, abbreviation := fixedAbbreviation seconds, isDst := false }
  | region timeline, s => timeline.stateAt s

/-- What the clocks of a zone are ahead by at a second within the range of the look-up. -/
def offsetInForce : Zone → Int → Int
  | utc, _ => 0
  | fixed seconds, _ => seconds
  | region timeline, s => timeline.offsetInForce s

/-- **What a zone says of a second**, whichever second it is. -/
def state (z : Zone) (s : Int) : ZoneState :=
  z.stateInRange (s + cycleShift s)

/-- How far a zone is ahead of Universal Time at a second. -/
def utcOffset (z : Zone) (s : Int) : Int :=
  (z.state s).utcOffset

/-- What the clocks of a zone show at a second, as it is looked up, is within the years 1
to 9999. -/
def IsOnCalendar (z : Zone) (s : Int) : Prop :=
  IsClockTime (s + cycleShift s + z.offsetInForce (s + cycleShift s))

instance (z : Zone) (s : Int) : Decidable (z.IsOnCalendar s) :=
  inferInstanceAs (Decidable (IsClockTime _))

/-- Clocks that are beyond those years are so by the offset that the zone tells. -/
theorem utcOffset_eq_offsetInForce {z : Zone} {s : Int} (h : ¬z.IsOnCalendar s) :
    z.utcOffset s = z.offsetInForce (s + cycleShift s) := by
  cases z with
  | utc => rfl
  | fixed seconds => rfl
  | region timeline => exact Timeline.utcOffset_stateAt h

/-- Clocks less than a day away from Universal Time stay within those years. -/
theorem isOnCalendar_of_isWithinDay {z : Zone} {s : Int} (h : IsWithinDay (z.utcOffset s)) :
    z.IsOnCalendar s := by
  by_cases hcalendar : z.IsOnCalendar s
  · exact hcalendar
  · rw [utcOffset_eq_offsetInForce hcalendar] at h
    exact clock_bounds_of_lookup (add_cycleShift_bounds s) h

/-- What can be told is within those years. -/
theorem isOnCalendar_of_isTellable {z : Zone} {s : Int} (h : (z.state s).IsTellable) :
    z.IsOnCalendar s :=
  isOnCalendar_of_isWithinDay h.1

/-- **Asking a zone about a second**: its state there, if that can be told. -/
def tell (z : Zone) (s : Int) : Except Failure ZoneState :=
  if ¬z.IsOnCalendar s then .error .overflow
  else if (z.state s).IsTellable then .ok (z.state s)
  else .error .badValue

/-- What is told are the tellable states, and nothing else. -/
theorem tell_eq_ok_iff {z : Zone} {s : Int} {state : ZoneState} :
    z.tell s = .ok state ↔ (z.state s).IsTellable ∧ state = z.state s := by
  unfold tell
  by_cases h : (z.state s).IsTellable
  · simp [h, isOnCalendar_of_isTellable h, eq_comm]
  · by_cases hcalendar : z.IsOnCalendar s
    · simp [h, hcalendar]
    · simp [h, hcalendar]

/-- **Asking a zone about one second after another.** -/
def tellAll (z : Zone) (seconds : List Int) : Except Failure (List ZoneState) :=
  seconds.mapM z.tell

/-- All seconds are told if and only if each of them is. -/
theorem tellAll_eq_ok_iff {z : Zone} {seconds : List Int} {states : List ZoneState} :
    z.tellAll seconds = .ok states ↔
      (∀ s ∈ seconds, (z.state s).IsTellable) ∧ states = seconds.map z.state := by
  unfold tellAll
  induction seconds generalizing states with
  | nil => simp [pure, Except.pure, eq_comm]
  | cons s rest ih =>
    rw [List.mapM_cons, List.forall_mem_cons, List.map_cons]
    cases htell : z.tell s with
    | error f =>
      have hs : ¬(z.state s).IsTellable := fun h => by simp [tell_eq_ok_iff.2 ⟨h, rfl⟩] at htell
      simp [bind, Except.bind, hs]
    | ok told =>
      obtain ⟨hs, rfl⟩ := tell_eq_ok_iff.1 htell
      cases htail : rest.mapM z.tell with
      | error f =>
        have hrest : ¬∀ s ∈ rest, (z.state s).IsTellable := fun h => by
          simp [ih.2 ⟨h, rfl⟩] at htail
        simp [bind, Except.bind, hrest]
      | ok tail =>
        obtain ⟨hrest, rfl⟩ := ih.1 htail
        exact ⟨fun h => ⟨⟨hs, hrest⟩, (Except.ok.inj h).symm⟩, fun h => congrArg Except.ok h.2.symm⟩

end Zone

end CivilTime
