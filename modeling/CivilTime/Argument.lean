import CivilTime.Binary64
import CivilTime.Failure

/-!
# Arguments

A component of a time may be given by a value of any kind, and has to become an integer.
There are two ways to make it one.

* **Implicit conversion**, `CivilTime.Argument.toInteger`, is generous: any number will do,
  and what it has behind the point is dropped. It refuses truth values, though they
  could be counted, and what is no number.
* **Strict reading**, `CivilTime.Argument.strictInteger`, accepts integers, truth values
  as 0 and 1, and values that declare themselves to be integers; no other number.
-/

namespace CivilTime

/-- A value given as an argument. -/
inductive Argument
  /-- No value. -/
  | nil
  | boolean (b : Bool)
  | integer (n : Int)
  | float (x : Binary64)
  /-- An exact fraction. -/
  | fraction (q : Rat)
  | text (s : String)
  /-- A value that is no integer but declares which integer it stands for. -/
  | index (n : Int)
  /-- A value of some other type, which stands for no integer. -/
  | other (typeName : String)
  /-- A value that fails when it is asked for its integer. -/
  | faulty (typeName : String) (failure : Failure)
  deriving DecidableEq, Repr

namespace Argument

/-- The failure of a value that stands for no integer. -/
def notConvertible (shown : String) : Failure :=
  .conversion s!"no implicit conversion of {shown} into Integer"

/-- **Implicit conversion to an integer.** A fraction is measured against the
floating-point numbers before its whole part is taken; one beyond them overflows. -/
def toInteger : Argument → Except Failure Int
  | nil => .error (.conversion "no implicit conversion from nil to integer")
  | boolean b => .error (notConvertible (if b then "true" else "false"))
  | integer n | index n => .ok n
  | float .nan => .error (.conversion "NaN")
  | float (.infinite negative) =>
    .error (.conversion (if negative then "-Infinity" else "Infinity"))
  | float x => .ok x.truncate
  | fraction q => if Binary64.overflows q then .error .overflow else .ok (Binary64.wholePart q)
  | text _ => .error (notConvertible "str")
  | other typeName => .error (notConvertible typeName)
  | faulty typeName .wrongType => .error (notConvertible typeName)
  | faulty _ failure => .error failure

/-- **Strict reading of an integer.** -/
def strictInteger : Argument → Except Failure Int
  | integer n | index n => .ok n
  | boolean b => .ok (if b then 1 else 0)
  | faulty _ failure => .error failure
  | nil | float _ | fraction _ | text _ | other _ => .error .wrongType

/-- Whether a value is no integer but declares one. -/
def isDeclared : Argument → Bool
  | index _ => true
  | _ => false

/-- An integer proper, for the places where nothing may merely stand for one. -/
def properInteger : Argument → Except Failure Int
  | integer n => .ok n
  | _ => .error .wrongType

end Argument

end CivilTime
