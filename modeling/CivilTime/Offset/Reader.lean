import CivilTime.Failure
import CivilTime.Text.Digit

/-!
# Reading offsets

An offset is read from `UTC`, `Z` or `GMT`, from a sign followed by hours and minutes, or
else it is the name of a zone. Nothing is refused but a signed offset out of range:
more than 59 minutes, or a day or more in all.

The digits may be those of any script, and one line feed may end the signed form.

* `CivilTime.Offset.ofSeconds`: a fixed offset, checked;
* `CivilTime.Offset.signedForm?`: sign, hours and minutes of a signed form;
* `CivilTime.Offset.parse`: reading.
-/

namespace CivilTime.Offset

/-- The failure of a fixed offset of a day or more. -/
def outOfRange : Failure := .fieldRange "utc_offset"

/-- A fixed offset, if it is less than a day in either direction. -/
def ofSeconds (seconds : Int) : Except Failure Offset :=
  if IsWithinDay seconds then .ok (.fixed seconds) else .error outOfRange

/-- The texts for Universal Time. -/
def utcNames : List String := ["UTC", "Z", "GMT"]

/-- What the sign of an offset multiplies by. -/
def signValue? (c : Char) : Option Int :=
  if c = '+' then some 1 else if c = '-' then some (-1) else none

/-- The number that two digits write. -/
def twoDigits? (tens units : Char) : Option Int :=
  match Text.digitValue? tens, Text.digitValue? units with
  | some t, some u => some (10 * t + u)
  | _, _ => none

/-- The minutes of a signed form, and at most a line feed behind them. -/
def minutes? : List Char → Option Int
  | [tens, units] => twoDigits? tens units
  | [tens, units, last] => if last = '\n' then twoDigits? tens units else none
  | _ => none

/-- What follows the hours: the minutes, with or without a colon before them. -/
def minutesAfterColon? : List Char → Option Int
  | ':' :: rest => minutes? rest
  | rest => minutes? rest

/-- **The signed form**: sign, hours and minutes of a text that has all three. -/
def signedForm? : List Char → Option (Int × Int × Int)
  | sign :: tens :: units :: rest =>
    match signValue? sign, twoDigits? tens units, minutesAfterColon? rest with
    | some s, some hours, some minutes => some (s, hours, minutes)
    | _, _, _ => none
  | _ => none

/-- **Reading an offset.** -/
def parse (text : String) : Except Failure Offset :=
  if text ∈ utcNames then .ok .utc
  else
    match signedForm? text.toList with
    | some (sign, hours, minutes) =>
      if 59 < minutes then .error outOfRange
      else ofSeconds (sign * (hours * 3600 + minutes * 60))
    | none => .ok (.named text)

end CivilTime.Offset
