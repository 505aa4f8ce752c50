/-!
# Instants

A point in physical time is counted in whole seconds from the start of 1970 in
Universal Time, and in nanoseconds within the second. With the nanoseconds kept
below one second, as everything in this library does, the lexicographic order on the
pair is the order of time.

* `CivilTime.Instant`, with its order and `CivilTime.Instant.compare`;
* `CivilTime.Instant.ofNanoseconds`, `CivilTime.Instant.totalNanoseconds`: an instant as
  one count of nanoseconds;
* `CivilTime.Instant.sort` and `CivilTime.Instant.ascending`: a list in order, with and
  without its repetitions.
-/

namespace CivilTime

/-- The nanoseconds of a second. -/
def nanosPerSecond : Int := 1000000000

/-- The seconds of a day. -/
def secondsPerDay : Int := 86400

/-- Less than a day, in either direction. -/
def IsWithinDay (seconds : Int) : Prop :=
  -secondsPerDay < seconds ∧ seconds < secondsPerDay

instance (seconds : Int) : Decidable (IsWithinDay seconds) :=
  inferInstanceAs (Decidable (_ ∧ _))

/-- A point in physical time. -/
structure Instant where
  seconds : Int
  nanoseconds : Int := 0
  deriving DecidableEq, Repr

namespace Instant

instance : LT Instant where
  lt a b := a.seconds < b.seconds ∨ a.seconds = b.seconds ∧ a.nanoseconds < b.nanoseconds

instance : LE Instant where
  le a b := a.seconds < b.seconds ∨ a.seconds = b.seconds ∧ a.nanoseconds ≤ b.nanoseconds

instance (a b : Instant) : Decidable (a < b) :=
  inferInstanceAs (Decidable (_ ∨ _))

instance (a b : Instant) : Decidable (a ≤ b) :=
  inferInstanceAs (Decidable (_ ∨ _))

theorem lt_iff {a b : Instant} :
    a < b ↔ a.seconds < b.seconds ∨ a.seconds = b.seconds ∧ a.nanoseconds < b.nanoseconds :=
  Iff.rfl

theorem le_iff {a b : Instant} :
    a ≤ b ↔ a.seconds < b.seconds ∨ a.seconds = b.seconds ∧ a.nanoseconds ≤ b.nanoseconds :=
  Iff.rfl

/-- How two instants lie to each other. -/
def compare (a b : Instant) : Ordering :=
  if a < b then .lt else if b < a then .gt else .eq

/-- An instant as one count of nanoseconds. -/
def totalNanoseconds (i : Instant) : Int :=
  i.seconds * nanosPerSecond + i.nanoseconds

/-- The instant a count of nanoseconds leads to. -/
def ofNanoseconds (n : Int) : Instant :=
  { seconds := n / nanosPerSecond, nanoseconds := n % nanosPerSecond }

/-! ### Lists in order -/

/-- The list in order; equal instants stay, and stay in their places. -/
def sort (l : List Instant) : List Instant :=
  l.mergeSort fun a b => decide (a ≤ b)

/-- Put an instant into its place in an ascending list, unless it is there already. -/
def insertAscending (i : Instant) : List Instant → List Instant
  | [] => [i]
  | j :: rest =>
    if i < j then i :: j :: rest else if j < i then j :: insertAscending i rest else j :: rest

/-- **The ascending list**: the instants of a list in order, each of them once. -/
def ascending (l : List Instant) : List Instant :=
  l.foldr insertAscending []

end Instant

end CivilTime
