import CivilTime.Argument

/-!
# Argument lists

A wall time may be given as a list of arguments, in one of two shapes:

* one to eight arguments, **from the year down** to the microsecond; the eighth is
  accepted and ignored;
* ten arguments in the order of the **array form**, second first; only the first six are
  read.

The arguments are read from the year down, each converted and then held against the
limits of its field, and **the first that fails decides the outcome**. Fields beyond the
end of the list keep the values of an empty `CivilTime.WallTime`.

A wall time whose fields are already there goes through the same limits
(`CivilTime.WallTime.check`), except that its fraction of a second is in nanoseconds and
fails in another way. So there is one reader, `CivilTime.ArgumentList.read`, and two lists
of limits.
-/

namespace CivilTime

/-- The fields of a wall time. -/
inductive WallTime.Field
  | year
  | month
  | day
  | hour
  | minute
  | second
  | nanoseconds
  deriving DecidableEq, Repr

/-- A wall time with one field replaced. -/
def WallTime.set (w : WallTime) (value : Int) : WallTime.Field → WallTime
  | .year => { w with year := value }
  | .month => { w with month := value }
  | .day => { w with day := value }
  | .hour => { w with hour := value }
  | .minute => { w with minute := value }
  | .second => { w with second := value }
  | .nanoseconds => { w with nanoseconds := value }

/-- One field of a wall time. -/
def WallTime.get (w : WallTime) : WallTime.Field → Int
  | .year => w.year
  | .month => w.month
  | .day => w.day
  | .hour => w.hour
  | .minute => w.minute
  | .second => w.second
  | .nanoseconds => w.nanoseconds

namespace ArgumentList

/-! ### Limits -/

/-- What a place of an argument list is for, and what it may hold. -/
structure Limits where
  field : WallTime.Field
  low : Int
  high : Int
  /-- How many units of the field one of the argument is. -/
  scale : Int := 1
  /-- How a value beyond the limits fails. -/
  failure : Int → Failure

/-- The least year, the least integer of 32 bits. -/
def minYear : Int := -2147483648

/-- The greatest year, the greatest integer of 32 bits. -/
def maxYear : Int := 2147483647

/-- The limits of the fields down to the second. An hour up to 59 is let through here,
and a day up to 31 in any month; whether there is such a time is for the zone to say. -/
def fieldLimits : List Limits := [
  { field := .year, low := minYear, high := maxYear, failure := fun _ => .fieldRange "year" },
  { field := .month, low := 1, high := 12, failure := fun _ => .fieldRange "mon" },
  { field := .day, low := 1, high := 31, failure := fun _ => .fieldRange "mday" },
  { field := .hour, low := 0, high := 59, failure := fun _ => .fieldRange "hour" },
  { field := .minute, low := 0, high := 59, failure := fun _ => .fieldRange "min" },
  { field := .second, low := 0, high := 59, failure := fun _ => .fieldRange "sec" }]

/-- The limits of an argument list, which ends with microseconds. -/
def argumentLimits : List Limits :=
  fieldLimits ++ [{ field := .nanoseconds, low := 0, high := 999999, scale := 1000,
                    failure := fun _ => .fieldRange "subsecx" }]

/-- The limits of the fields of a wall time, which end with nanoseconds. -/
def wallLimits : List Limits :=
  fieldLimits ++ [{ field := .nanoseconds, low := 0, high := 999999999,
                    failure := fun value => .componentRange "nanoseconds" value }]

/-- A value within its limits, in the units of its field. -/
def Limits.admit (l : Limits) (value : Int) : Except Failure Int :=
  if l.low ≤ value ∧ value ≤ l.high then .ok (value * l.scale) else .error (l.failure value)

/-! ### Reading -/

variable {α : Type}

/-- **Reading arguments in order**: each is converted, admitted and put into its field,
and the first that fails ends the reading. Arguments beyond the limits are not looked
at. -/
def read (convert : α → Except Failure Int) (w : WallTime) :
    List Limits → List α → Except Failure WallTime
  | l :: limits, a :: args => do
    let value ← convert a
    let units ← l.admit value
    read convert (w.set units l.field) limits args
  | _, _ => .ok w

/-- The six fields of an array form, from the year down. -/
def fromArrayOrder : List α → List α
  | second :: minute :: hour :: day :: month :: year :: _ => [year, month, day, hour, minute, second]
  | args => args

/-- The arguments that are read, from the year down, if the list has a shape that is
accepted. -/
def arrange (args : List α) : Except Failure (List α) :=
  if args.length = 10 then .ok (fromArrayOrder args)
  else if 1 ≤ args.length ∧ args.length ≤ 8 then .ok args
  else .error (.argumentCount args.length)

/-- **Normalizing an argument list** with a given conversion to integers. -/
def normalizeWith (convert : α → Except Failure Int) (args : List α) : Except Failure WallTime := do
  read convert {} argumentLimits (← arrange args)

/-- **Normalizing an argument list** by implicit conversion. -/
def normalize (args : List Argument) : Except Failure WallTime :=
  normalizeWith Argument.toInteger args

/-- **The wall time of given fields**, from the year down: strictly integers, and within
their limits. -/
def strictWallTime (fields : List Argument) : Except Failure WallTime :=
  if fields.length ≤ wallLimits.length then read Argument.strictInteger {} wallLimits fields
  else .error .wrongType

end ArgumentList

/-- **The check of a wall time** that was not read from an argument list: it fails as the
first of its fields beyond the limits does, and is left as it is otherwise. -/
def WallTime.check (w : WallTime) : Except Failure WallTime :=
  ArgumentList.read Except.ok {} ArgumentList.wallLimits w.toList

end CivilTime
