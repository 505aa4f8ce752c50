import CivilTime.ArrayForm
import CivilTime.Catalog
import CivilTime.Comparison

/-!
# Times

A **time** is an instant together with the offset in which it is to be shown and the
catalog in which that offset is looked up. It is made from a time stamp, or from a wall
time that is resolved in the offset's zone; it can be moved along and shown elsewhere.

Only the instant counts when times are compared. The fields of the calendar are read
anew whenever they are asked for, and are never kept.

* `CivilTime.Time.ofInstant`, `CivilTime.Time.now`: from time stamps;
* `CivilTime.Time.ofWallTime`, `CivilTime.Time.ofFields`, `CivilTime.Time.ofArguments`,
  `CivilTime.Time.ofArrayForm`: from wall times;
* `CivilTime.Time.shift`, `CivilTime.Time.withOffset`: moving and showing elsewhere;
* `CivilTime.Time.reading` and the fields read from it;
* `CivilTime.Time.compare`, `CivilTime.Time.toRat`, `CivilTime.Time.toFloat`: order and number.
-/

namespace CivilTime

/-- An instant, the offset it is shown in, and the catalog for that offset. -/
structure Time where
  instant : Instant
  offset : Offset
  catalog : Catalog := {}
  deriving DecidableEq, Repr

namespace Time

/-! ### From time stamps -/

/-- The least count of seconds of a time, the least integer of 64 bits. -/
def minSeconds : Int := -9223372036854775808

/-- The greatest count of seconds of a time, the greatest integer of 64 bits. -/
def maxSeconds : Int := 9223372036854775807

/-- A count of seconds that a time may have. -/
def admitSeconds (seconds : Int) : Except Failure Int :=
  if minSeconds ≤ seconds ∧ seconds ≤ maxSeconds then .ok seconds
  else .error (.componentRange "seconds" seconds)

/-- A count of nanoseconds that a time may have: less than a second. -/
def admitNanoseconds (nanoseconds : Int) : Except Failure Int :=
  if 0 ≤ nanoseconds ∧ nanoseconds < nanosPerSecond then .ok nanoseconds
  else .error (.componentRange "nanoseconds" nanoseconds)

/-- **The time of an instant.** The nanoseconds are checked first, then the seconds, then
whether the offset has a zone. -/
def ofInstant (catalog : Catalog) (offset : Offset) (i : Instant) : Except Failure Time := do
  let _ ← admitNanoseconds i.nanoseconds
  let _ ← admitSeconds i.seconds
  let _ ← catalog.zone offset
  return { instant := i, offset, catalog }

/-- The time of a time stamp given by arguments. -/
def ofStamp (catalog : Catalog) (offset : Offset) (seconds nanoseconds : Argument) :
    Except Failure Time := do
  let seconds ← seconds.strictInteger
  let nanoseconds ← nanoseconds.strictInteger
  ofInstant catalog offset { seconds, nanoseconds }

/-- What becomes of a failure on the way to the present time: failures of time and of
the system mean that it cannot be told, and others are passed on. -/
def orNoPresent {α : Type} : Except Failure α → Except Failure α
  | .ok a => .ok a
  | .error f => .error (if f.IsTimeFailure ∨ f = .system then .noPresent else f)

/-- **The present time** in the local zone, by a clock that may fail. -/
def now (catalog : Catalog) (clock : Except Failure Instant) : Except Failure Time :=
  orNoPresent (clock >>= ofInstant catalog .localZone)

/-! ### From wall times -/

/-- The time of a wall time whose fields are within their limits. -/
def ofChecked (catalog : Catalog) (offset : Offset) (strict : Bool) (w : WallTime) :
    Except Failure Time := do
  let zone ← catalog.zone offset
  let instant ← zone.resolve offset strict w
  return { instant, offset, catalog }

/-- **The time of a wall time**: checked, then resolved in the zone of the offset. -/
def ofWallTime (catalog : Catalog) (offset : Offset) (strict : Bool) (w : WallTime) :
    Except Failure Time := do
  ofChecked catalog offset strict (← w.check)

/-- The time of a wall time given by its fields, from the year down. Values that merely
declare an integer pass the check, but **no date and no time of day can be made of them**;
this comes out when the zone has been found. The nanoseconds may be such a value. -/
def ofFields (catalog : Catalog) (offset : Offset) (strict : Bool) (fields : List Argument) :
    Except Failure Time := do
  let w ← ArgumentList.strictWallTime fields
  let _ ← catalog.zone offset
  if (fields.take 6).any Argument.isDeclared then .error .wrongType
  else ofChecked catalog offset strict w

/-- **The time of an argument list.** -/
def ofArguments (catalog : Catalog) (offset : Offset) (strict : Bool) (args : List Argument) :
    Except Failure Time := do
  ofWallTime catalog offset strict (← ArgumentList.normalize args)

/-- **The time of an array form**, at a whole second. -/
def ofArrayForm (catalog : Catalog) (a : ArrayForm) : Except Failure Time :=
  ofWallTime catalog a.offset false a.wall

/-- The time of an array form given by its values, the second first. -/
def ofArrayFields (catalog : Catalog) (offset : Offset) (values : List Argument) :
    Except Failure Time :=
  ofFields catalog offset false (ArgumentList.fromArrayOrder values ++ [.integer 0])

/-! ### Moving along, showing elsewhere -/

/-- **Moving a time** by a number of seconds. -/
def shift (t : Time) (seconds : Int) : Except Failure Time := do
  return { t with instant := { t.instant with
    seconds := ← admitSeconds (t.instant.seconds + seconds) } }

/-- A time and an argument added. -/
def add (t : Time) (a : Argument) : Except Failure Time := do
  t.shift (← a.properInteger)

/-- An argument taken away from a time. -/
def sub (t : Time) (a : Argument) : Except Failure Time := do
  t.shift (-(← a.properInteger))

/-- A time taken away from an argument, which has no meaning. -/
def takenFrom (_ : Time) (_ : Argument) : Except Failure Time :=
  .error .wrongType

/-- **The same instant in another offset**, which must have a zone. -/
def withOffset (t : Time) (offset : Offset) : Except Failure Time := do
  let _ ← t.catalog.zone offset
  return { t with offset }

/-- The same instant in Universal Time. -/
def toUtc (t : Time) : Except Failure Time :=
  t.withOffset .utc

/-- The same instant in the local zone. -/
def toLocal (t : Time) : Except Failure Time :=
  t.withOffset .localZone

/-! ### Reading -/

/-- **The reading of a time** in the zone of its offset, if the zone tells it. -/
def reading (t : Time) : Except Failure Reading := do
  let zone ← t.catalog.zone t.offset
  let _ ← zone.tell t.instant.seconds
  return Reading.ofInstant zone t.offset t.instant

/-- The wall time. -/
def wall (t : Time) : Except Failure WallTime :=
  return (← t.reading).wall

/-- The array form. -/
def toArrayForm (t : Time) : Except Failure ArrayForm :=
  return ArrayForm.ofReading (← t.reading)

/-! ### Order -/

/-- How two times lie to each other: as their instants do. -/
def compare (a b : Time) : Ordering :=
  a.instant.compare b.instant

instance : LT Time where
  lt a b := a.instant < b.instant

instance : LE Time where
  le a b := a.instant ≤ b.instant

instance (a b : Time) : Decidable (a < b) :=
  inferInstanceAs (Decidable (a.instant < b.instant))

instance (a b : Time) : Decidable (a ≤ b) :=
  inferInstanceAs (Decidable (a.instant ≤ b.instant))

/-- Times under labels, in order; labels of equal times stay in their places. -/
def sortLabelled {α : Type} (l : List (α × Time)) : List (α × Time) :=
  l.mergeSort fun a b => decide (a.2 ≤ b.2)

/-- The number of different times in a list. -/
def countDistinct (l : List Time) : Nat :=
  (Instant.ascending (l.map (·.instant))).length

/-! ### Number -/

/-- The fraction of the second, not reduced. -/
def subsecond (t : Time) : Int × Int :=
  (t.instant.nanoseconds, nanosPerSecond)

/-- **A time as a rational number** of seconds. -/
def toRat (t : Time) : Rat :=
  t.instant.seconds + mkRat t.instant.nanoseconds nanosPerSecond.toNat

/-- Whole and fractional seconds as floating-point numbers, and their sum. -/
def floatSum (seconds nanoseconds : Int) : Binary64 :=
  let whole := Binary64.nearest seconds
  let fraction := Binary64.nearest (mkRat nanoseconds nanosPerSecond.toNat)
  Binary64.nearest (whole.toRat + fraction.toRat)

/-- **A time as a floating-point number** of seconds. -/
def toFloat (t : Time) : Binary64 :=
  floatSum t.instant.seconds t.instant.nanoseconds

/-- **The seconds from one time to another**, as a floating-point number. -/
def difference (a b : Time) : Binary64 :=
  floatSum (a.instant.seconds - b.instant.seconds) (a.instant.nanoseconds - b.instant.nanoseconds)

end Time

end CivilTime
