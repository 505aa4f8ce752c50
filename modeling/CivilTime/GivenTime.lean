import CivilTime.Time

/-!
# Times as they were given

The nanoseconds of a time may be given by a value that is no integer proper. It is
accepted, and then **passed on as it is**: the time can be moved, shown elsewhere and
taken apart into its fields.

A truth value counts as 0 or 1 wherever the time is computed with, and only when the
nanoseconds themselves are asked for it shows again what they were given by.

A value that merely declares an integer is of less use: one cannot compute with the
fraction of the second. There are no microseconds, no number and no difference, and two
such times are compared by their seconds alone. Where these are equal the comparison
fails, unless both times have the very same value – not one that declares the same
integer.

* `CivilTime.GivenTime`: a time, and the form in which its nanoseconds were given;
* `CivilTime.GivenTime.nanoseconds`: the nanoseconds as they were given;
* `CivilTime.GivenTime.settled`: the time, if its nanoseconds can be computed with;
* `CivilTime.GivenTime.compare`, `CivilTime.GivenTime.sortLabelled`: comparing.
-/

namespace CivilTime

/-- The forms in which nanoseconds are given. -/
inductive GivenTime.Form
  | integer
  /-- A truth value. -/
  | boolean
  /-- The value of this number, which declares an integer. -/
  | declared (number : Nat)
  deriving DecidableEq, Repr

/-- A time together with the way its nanoseconds were given. -/
structure GivenTime where
  time : Time
  form : GivenTime.Form := .integer
  deriving DecidableEq, Repr

namespace GivenTime

/-- The form of the nanoseconds among the fields of a wall time, where the fields have
this number. Nanoseconds that are left out are an integer. -/
def Form.ofFields (number : Nat) (fields : List Argument) : Form :=
  match fields.drop 6 with
  | .index _ :: _ => .declared number
  | .boolean _ :: _ => .boolean
  | _ => .integer

/-- The number of the value that declares the nanoseconds, if one does. -/
def Form.declaration? : Form → Option Nat
  | declared number => some number
  | integer | boolean => none

/-- **The time of a wall time given by its fields**, from the year down. The fields have a
number, by which their values are told from those given elsewhere. -/
def ofFields (catalog : Catalog) (offset : Offset) (strict : Bool) (number : Nat)
    (fields : List Argument) : Except Failure GivenTime := do
  return { time := ← Time.ofFields catalog offset strict fields, form := Form.ofFields number fields }

/-- A time made of another one: its nanoseconds are the same value. -/
def map (g : GivenTime) (f : Time → Except Failure Time) : Except Failure GivenTime := do
  return { g with time := ← f g.time }

/-- **The nanoseconds as they were given.** -/
def nanoseconds (g : GivenTime) : Argument :=
  match g.form with
  | .integer => .integer g.time.instant.nanoseconds
  | .boolean => .boolean (g.time.instant.nanoseconds ≠ 0)
  | .declared _ => .index g.time.instant.nanoseconds

/-- **The time, for computing**: its nanoseconds must not be merely declared. -/
def settled (g : GivenTime) : Except Failure Time :=
  if g.form.declaration? = none then .ok g.time else .error .wrongType

/-- The reading of a time, in all of its parts. -/
def reading (g : GivenTime) : Except Failure Reading := do
  let reading ← g.time.reading
  let _ ← g.settled
  return reading

/-- The seconds from one time to another. -/
def difference (a b : GivenTime) : Except Failure Binary64 := do
  return (← a.settled).difference (← b.settled)

/-- **The times that can be compared**: their seconds differ, or none of their nanoseconds
are declared, or both by the same value. -/
def IsComparable (a b : GivenTime) : Prop :=
  a.time.instant.seconds ≠ b.time.instant.seconds ∨ a.form.declaration? = b.form.declaration?

instance (a b : GivenTime) : Decidable (a.IsComparable b) :=
  inferInstanceAs (Decidable (_ ∨ _))

/-- **How two times lie to each other.** -/
def compare (a b : GivenTime) : Except Failure Ordering :=
  if a.IsComparable b then .ok (a.time.compare b.time) else .error .wrongType

/-- **Times under labels, in order.** All of them must be comparable: two that are not
could not be put in order whatever the others are. -/
def sortLabelled {α : Type} (l : List (α × GivenTime)) : Except Failure (List (α × Time)) :=
  if ∀ a ∈ l, ∀ b ∈ l, a.2.IsComparable b.2 then
    .ok (Time.sortLabelled (l.map fun a => (a.1, a.2.time)))
  else .error .wrongType

end GivenTime

end CivilTime
