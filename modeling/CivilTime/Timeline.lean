import CivilTime.Calendar
import CivilTime.Instant

/-!
# Timelines

The clocks of a region have been set again and again. Its **timeline** has the state before all
changes, and the changes in the order of their times. What the last change says stays in force
for ever.

A second can be looked up in two ways.

* **By the second** itself: its state is the one in force, that of the last change up to then.
  Whatever a zone answers about the seconds that it can be asked about, there is a timeline that
  answers the same when it is looked up like this.
* **By the clock**, which is how the regions of a database are looked up. The offset in force says
  what the clocks show, and what they show says which state it is. The first half of this
  goes by the times of the changes, the second half by the times that the clocks show when they
  are set. Each change has two of those, one that they are set from and one that they are set
  to. Clocks that are put back show the time between them **twice**, and which of the two
  ends counts depends on whether it is the first time or the second.

The two ways agree as long as the clocks of one change have caught up before the next one
(`CivilTime.Timeline.stateAt_eq_stateFrom`). Where changes follow each other more closely, the way
by the clock may lead to a state that is not in force at all.

* `CivilTime.Timeline.inForce`, `CivilTime.Timeline.offsetInForce`: what the last change says;
* `CivilTime.Timeline.clockTimes`: what the clocks show when they are set;
* `CivilTime.Timeline.stateAt`: **what a region says of a second**;
* `CivilTime.ZoneState.IsTellable`: the states that can be told.
-/

namespace CivilTime

/-! ### States -/

/-- What a zone says of one second. -/
structure ZoneState where
  /-- Seconds ahead of Universal Time. -/
  utcOffset : Int
  abbreviation : String
  isDst : Bool
  /-- How many of the seconds ahead are summer time. -/
  saving : Int := 0
  deriving DecidableEq, Repr

/-- **The states that are told**: both the offset and the saving are less than a day. -/
def ZoneState.IsTellable (s : ZoneState) : Prop :=
  IsWithinDay s.utcOffset ∧ IsWithinDay s.saving

instance (s : ZoneState) : Decidable s.IsTellable :=
  inferInstanceAs (Decidable (_ ∧ _))

/-! ### The years that clocks can show -/

/-- The first second that clocks can show: the start of the year 1. -/
def clockMin : Int := Date.toDays { year := 1, month := 1, day := 1 } * secondsPerDay

/-- The last second that clocks can show: the end of the year 9999. -/
def clockMax : Int := Date.toDays { year := 10000, month := 1, day := 1 } * secondsPerDay - 1

/-- What clocks can show: the seconds of the years 1 to 9999. -/
def IsClockTime (shown : Int) : Prop :=
  clockMin ≤ shown ∧ shown ≤ clockMax

instance (shown : Int) : Decidable (IsClockTime shown) :=
  inferInstanceAs (Decidable (_ ∧ _))

/-! ### Timelines -/

/-- A change of the clocks of a region: from this second on, this state. -/
structure Transition where
  since : Int
  state : ZoneState
  deriving DecidableEq, Repr

/-- The ways to look a second up. -/
inductive Timeline.Lookup
  | bySecond
  /-- The first change is thought to be one from the offset `base`, whatever the state before
  it. -/
  | byClock (base : Int)
  deriving DecidableEq, Repr

/-- The clocks of a region through all times. -/
structure Timeline where
  /-- The state before the first change. -/
  initial : ZoneState
  /-- The changes, in the order of their times. -/
  transitions : List Transition := []
  lookup : Timeline.Lookup := .bySecond
  deriving DecidableEq, Repr

namespace Timeline

/-! ### Halving -/

/-- The place of a value in a list of times, which is sought from the place `low` on and before
the place `high`. Each step halves what is left; `steps` is enough if it is as much as that. -/
def placeBetween (times : List Int) (value : Int) : Nat → Nat → Nat → Nat
  | 0, low, _ => low
  | steps + 1, low, high =>
    let middle := (low + high) / 2
    if high ≤ low then low
    else if value < times.getD middle value then placeBetween times value steps low middle
    else placeBetween times value steps (middle + 1) high

/-- **The place of a value in a list of times**: how many of them are not after it, if they are
in order. The ends are tried first. -/
def place (times : List Int) (value : Int) : Nat :=
  if value < times.headD value then 0
  else if times.getLastD value < value then times.length
  else placeBetween times value times.length 0 times.length

/-! ### The state in force -/

/-- The states that a region is ever in. -/
def states (t : Timeline) : List ZoneState :=
  t.initial :: t.transitions.map (·.state)

/-- The state after so many changes. -/
def stateAfter (t : Timeline) (changes : Nat) : ZoneState :=
  t.states.getD changes t.initial

/-- The times of the changes. -/
def changeTimes (t : Timeline) : List Int :=
  t.transitions.map (·.since)

/-- How many changes there have been up to a second. -/
def changesMade (t : Timeline) (s : Int) : Nat :=
  place t.changeTimes s

/-- The state in force at a second, where `current` was in force before the changes. -/
def stateFrom (current : ZoneState) : List Transition → Int → ZoneState
  | [], _ => current
  | change :: rest, s => if change.since ≤ s then stateFrom change.state rest s else current

/-- **The state in force** at a second: that of the last change up to then. -/
def inForce (t : Timeline) (s : Int) : ZoneState :=
  match t.lookup with
  | .bySecond => stateFrom t.initial t.transitions s
  | .byClock _ => t.stateAfter (t.changesMade s)

/-- The offset in force. It is what the clocks are ahead by. -/
def offsetInForce (t : Timeline) (s : Int) : Int :=
  (t.inForce s).utcOffset

/-! ### The look-up by the clock -/

/-- The clocks show something for the second time: the last change put them back, by more than
the time that has passed since. -/
def IsRepeated (t : Timeline) (s : Int) : Prop :=
  let made := t.changesMade s
  0 < made ∧ s - t.changeTimes.getD (made - 1) s <
    (t.stateAfter (made - 1)).utcOffset - (t.stateAfter made).utcOffset

instance (t : Timeline) (s : Int) : Decidable (t.IsRepeated s) :=
  inferInstanceAs (Decidable (_ ∧ _))

/-- What the clocks show at each change, the first time or the second. The first time a change
counts when both of its two ends have been shown, the second time as soon as one has. -/
def clockTimes (t : Timeline) (base : Int) (again : Bool) : List Int :=
  List.zipWith
    (fun before change => change.since +
      if again then min before change.state.utcOffset else max before change.state.utcOffset)
    (base :: t.transitions.map (·.state.utcOffset)) t.transitions

/-- The state when the clocks show something for the first time or for the second. -/
def stateShown (t : Timeline) (base : Int) (again : Bool) (shown : Int) : ZoneState :=
  t.stateAfter (place (t.clockTimes base again) shown)

/-- **The state of a region** at a second. Where the clocks would show no year from 1 to 9999,
the way by the clock ends with what is in force. -/
def stateAt (t : Timeline) (s : Int) : ZoneState :=
  match t.lookup with
  | .bySecond => t.inForce s
  | .byClock base =>
    let shown := s + t.offsetInForce s
    if IsClockTime shown then t.stateShown base (decide (t.IsRepeated s)) shown else t.inForce s

/-- **Where clocks go off the calendar**, what a region says is what puts them there. -/
theorem utcOffset_stateAt {t : Timeline} {s : Int} (h : ¬IsClockTime (s + t.offsetInForce s)) :
    (t.stateAt s).utcOffset = t.offsetInForce s := by
  rw [stateAt]
  cases t.lookup with
  | bySecond => rfl
  | byClock base =>
    dsimp only
    rw [if_neg h, offsetInForce]

end Timeline

end CivilTime
