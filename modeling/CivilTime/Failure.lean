import CivilTime.Offset
import CivilTime.Text.Quoted
import CivilTime.WallTime

/-!
# Failures

Everything that can go wrong, by its cause. A failure carries what its text needs and
nothing else; the text is `CivilTime.Failure.message`, in one place for all of them.

The failures of this library are those with a message. The rest –
`wrongType`, `badValue`, `overflow`, `outOfTable`, `system` and `fault` – come from outside: a value
that is no number where one is demanded, a file that cannot be read. They have no text here.
-/

namespace CivilTime

/-- The ways in which the loader of zones **breaks down**, as opposed to those in which it refuses
what it finds. -/
inductive Fault
  /-- The data of a zone end too soon. -/
  | brokenOff
  /-- The data of a zone lack a mark where there has to be one. -/
  | unmarked
  /-- There is no room to look for a key of so many parts. -/
  | tooDeep
  /-- A key leads through something that is no folder. -/
  | notAFolder
  deriving DecidableEq, Repr

/-- What went wrong. -/
inductive Failure
  /-- An argument list of a length that is not accepted. -/
  | argumentCount (given : Int)
  /-- A field beyond its limits. -/
  | fieldRange (field : String)
  /-- A part of a time stamp beyond its limits. -/
  | componentRange (field : String) (value : Int)
  /-- An argument that stands for no integer. -/
  | conversion (message : String)
  /-- A wall time that no instant shows. -/
  | unresolved (wall : WallTime) (offset : Offset)
  /-- A zone that cannot be had. -/
  | zoneNotFound (key : String) (reason : String)
  /-- The same as `unresolved`, where the caller insisted on an instant. -/
  | unmatched (wall : WallTime) (offset : Offset)
  /-- The present time cannot be told. -/
  | noPresent
  /-- A failure of this library that says nothing more. -/
  | unspecified
  /-- A value of the wrong type. -/
  | wrongType
  /-- A value that its owner refuses. -/
  | badValue
  /-- A number too large for its representation. -/
  | overflow
  /-- A place that a table does not have. -/
  | outOfTable
  /-- The operating system said no. -/
  | system
  /-- The loader of zones broke down. -/
  | fault (kind : Fault)
  deriving DecidableEq, Repr

/-- The families that failures belong to. -/
inductive Failure.Category
  | argument
  | lookup
  | runtime
  | time
  | type
  | value
  deriving DecidableEq, Repr

namespace Failure

/-- The text of a failure, where it has one. -/
def message : Failure → Option String
  | argumentCount given => some s!"wrong number of arguments (given {given}, expected 1..8)"
  | fieldRange field => some s!"{field} out of range"
  | componentRange field value => some s!"{field} out of range: {value}"
  | conversion message => some message
  | unresolved wall offset =>
    some ("no instant matches local time " ++ wall.text ++ " in " ++ offset.text)
  | zoneNotFound key reason => some (reason ++ ": " ++ Text.quoted key)
  | unmatched _ _ => some "Could not find a matching DateTime for this timezone"
  | noPresent => some "Unable to find now"
  | unspecified => some ""
  | wrongType | badValue | overflow | outOfTable | system | fault _ => none

/-- The failure that a failure was made of. -/
def cause? : Failure → Option Failure
  | unmatched wall offset => some (unresolved wall offset)
  | _ => none

/-- The families of a failure, in the order of their names. -/
def categories : Failure → List Category
  | argumentCount _ | fieldRange _ => [.argument, .time, .value]
  | componentRange _ _ => [.time, .value]
  | conversion _ => [.time, .type]
  | unresolved _ _ | unspecified => [.time]
  | zoneNotFound _ _ => [.lookup, .time]
  | unmatched _ _ | noPresent => [.runtime]
  | wrongType => [.type]
  | badValue => [.value]
  | outOfTable => [.lookup]
  | fault .tooDeep => [.runtime]
  | fault .notAFolder => [.type]
  | overflow | system | fault .brokenOff | fault .unmarked => []

/-- The failures of time itself, as opposed to those of the surroundings. -/
def IsTimeFailure (f : Failure) : Prop :=
  Category.time ∈ f.categories

instance (f : Failure) : Decidable f.IsTimeFailure :=
  inferInstanceAs (Decidable (_ ∈ _))

/-- The failures by which a zone is **unusable**: it is not found, it cannot be read, or it is
refused. A breakdown is none of them. -/
def isUnusable : Failure → Bool
  | zoneNotFound _ _ | system => true
  | f => decide (Category.value ∈ f.categories)

@[simp]
theorem isUnusable_fault (kind : Fault) : (fault kind).isUnusable = false := by
  cases kind <;> decide

/-- The name of a failure of time, as reports list it. -/
def name? : Failure → Option String
  | argumentCount _ => some "ArgumentCountError"
  | fieldRange _ => some "FieldRangeError"
  | componentRange _ _ => some "ComponentRangeError"
  | conversion _ => some "TypeConversionError"
  | unresolved _ _ => some "ZoneResolutionError"
  | zoneNotFound _ _ => some "ZoneNotFoundError"
  | unspecified => some "TimeError"
  | unmatched _ _ | noPresent => none
  | wrongType | badValue | overflow | outOfTable | system | fault _ => none

/-- One step after another answers if both do. -/
theorem bind_eq_ok_iff {α β : Type} {x : Except Failure α} {f : α → Except Failure β} {b : β} :
    x >>= f = .ok b ↔ ∃ a, x = .ok a ∧ f a = .ok b := by
  cases x with
  | error failure => exact ⟨nofun, nofun⟩
  | ok a =>
    refine ⟨fun h => ⟨a, rfl, h⟩, ?_⟩
    rintro ⟨a', ha, h⟩
    obtain rfl := Except.ok.inj ha
    exact h

/-- One step after another fails if the first does, or the second after it. -/
theorem bind_eq_error_iff {α β : Type} {x : Except Failure α} {f : α → Except Failure β}
    {failure : Failure} :
    x >>= f = .error failure ↔ x = .error failure ∨ ∃ a, x = .ok a ∧ f a = .error failure := by
  cases x with
  | error first =>
    constructor
    · intro h
      exact Or.inl (congrArg Except.error (Except.error.inj h))
    · rintro (h | ⟨a, ha, -⟩)
      · exact congrArg Except.error (Except.error.inj h)
      · exact absurd ha nofun
  | ok a =>
    constructor
    · exact fun h => Or.inr ⟨a, rfl, h⟩
    · rintro (h | ⟨a', ha, h⟩)
      · exact absurd h nofun
      · obtain rfl := Except.ok.inj ha
        exact h

section Check

variable {α : Type} {p : Prop} [Decidable p] {a b : α} {first failure : Failure}

/-- A check answers if what it asks for is true. -/
theorem ite_eq_ok_iff : (if p then .ok a else .error failure) = Except.ok b ↔ p ∧ b = a := by
  by_cases h : p
  · rw [if_pos h, Except.ok.injEq, eq_comm]
    exact (and_iff_right h).symm
  · rw [if_neg h]
    exact ⟨nofun, fun heq => absurd heq.1 h⟩

/-- A check fails if what it asks for is false. -/
theorem ite_eq_error_iff :
    (if p then .ok a else .error first) = Except.error failure ↔ ¬p ∧ failure = first := by
  by_cases h : p
  · rw [if_pos h]
    exact ⟨nofun, fun heq => absurd h heq.1⟩
  · rw [if_neg h, Except.error.injEq, eq_comm]
    exact (and_iff_right h).symm

end Check

/-! ### The first that fails -/

section First

variable {α : Type} {p q : α → Prop} {a : α} {rest : List α}

/-- In an empty list there is no first. -/
theorem not_exists_first_nil :
    ¬∃ before b after, ([] : List α) = before ++ b :: after ∧ (∀ c ∈ before, p c) ∧ q b := by
  rintro ⟨before, b, after, hsplit, -⟩
  exact absurd hsplit.symm (List.append_ne_nil_of_right_ne_nil _ (List.cons_ne_nil _ _))

/-- **The first of a list that fails**, all those before it being in order, is its head, or the
head is in order and it is the first of the rest. -/
theorem exists_first_cons_iff :
    (∃ before b after, a :: rest = before ++ b :: after ∧ (∀ c ∈ before, p c) ∧ q b) ↔
      q a ∨ p a ∧ ∃ before b after, rest = before ++ b :: after ∧ (∀ c ∈ before, p c) ∧ q b := by
  constructor
  · rintro ⟨before, b, after, hsplit, hbefore, hb⟩
    cases before with
    | nil =>
      obtain ⟨rfl, rfl⟩ := List.cons.inj hsplit
      exact Or.inl hb
    | cons c before =>
      obtain ⟨rfl, rfl⟩ := List.cons.inj hsplit
      obtain ⟨ha, hbefore⟩ := List.forall_mem_cons.mp hbefore
      exact Or.inr ⟨ha, before, b, after, rfl, hbefore, hb⟩
  · rintro (ha | ⟨ha, before, b, after, rfl, hbefore, hb⟩)
    · exact ⟨[], a, rest, rfl, fun _ h => absurd h List.not_mem_nil, ha⟩
    · exact ⟨a :: before, b, after, rfl, List.forall_mem_cons.mpr ⟨ha, hbefore⟩, hb⟩

end First

end Failure

end CivilTime
