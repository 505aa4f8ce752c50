import CivilTime.ArgumentList
import Mathlib.Tactic.SplitIfs

/-!
# What gets past the limits

A reading of arguments answers if it answers at every place, and then each value has been
put into its field (`CivilTime.ArgumentList.read_cons_eq_ok_iff`). Otherwise it fails as the first
place does that holds no integer within its limits
(`CivilTime.ArgumentList.read_cons_eq_error_iff`).

The check of a wall time reads its own fields, so that what gets past it is the wall time itself,
all of whose fields are **within their limits** (`CivilTime.WallTime.check_eq_ok_iff`). It makes no
difference whether they are given as arguments or as numbers
(`CivilTime.ArgumentList.strictWallTime_integers`).

A calendar and a clock never show a field beyond its limits, save for the year. So a wall time that
can be shown gets past the check or **fails for its year**
(`CivilTime.WallTime.check_of_isShowable`).
-/

namespace CivilTime

namespace ArgumentList

variable {α β : Type}

theorem Limits.admit_eq_ok_iff {l : Limits} {value units : Int} :
    l.admit value = .ok units ↔ (l.low ≤ value ∧ value ≤ l.high) ∧ units = value * l.scale :=
  Failure.ite_eq_ok_iff

theorem Limits.admit_eq_error_iff {l : Limits} {value : Int} {failure : Failure} :
    l.admit value = .error failure ↔
      ¬(l.low ≤ value ∧ value ≤ l.high) ∧ failure = l.failure value :=
  Failure.ite_eq_error_iff

/-- A value is admitted within the limits only, and is then counted in the units of the field. -/
theorem Limits.exists_admit_iff {l : Limits} {value : Int} {p : Int → Prop} :
    (∃ units, l.admit value = .ok units ∧ p units) ↔
      (l.low ≤ value ∧ value ≤ l.high) ∧ p (value * l.scale) := by
  constructor
  · rintro ⟨units, hadmit, hunits⟩
    obtain ⟨hlimits, rfl⟩ := Limits.admit_eq_ok_iff.mp hadmit
    exact ⟨hlimits, hunits⟩
  · rintro ⟨hlimits, hunits⟩
    exact ⟨_, Limits.admit_eq_ok_iff.mpr ⟨hlimits, rfl⟩, hunits⟩

/-- **One place of a reading**: its argument is an integer within the limits, and the rest is
read with the field filled in. -/
theorem read_cons_eq_ok_iff {convert : α → Except Failure Int} {w v : WallTime} {l : Limits}
    {limits : List Limits} {a : α} {args : List α} :
    read convert w (l :: limits) (a :: args) = .ok v ↔
      ∃ value, convert a = .ok value ∧ (l.low ≤ value ∧ value ≤ l.high) ∧
        read convert (w.set (value * l.scale) l.field) limits args = .ok v := by
  rw [read, Failure.bind_eq_ok_iff]
  refine exists_congr fun value => and_congr_right fun _ => ?_
  rw [Failure.bind_eq_ok_iff, Limits.exists_admit_iff]

/-- **Where a reading fails**: at the first place, because its argument is no integer or beyond the
limits, or in the rest. -/
theorem read_cons_eq_error_iff {convert : α → Except Failure Int} {w : WallTime} {l : Limits}
    {limits : List Limits} {a : α} {args : List α} {failure : Failure} :
    read convert w (l :: limits) (a :: args) = .error failure ↔
      convert a = .error failure ∨ ∃ value, convert a = .ok value ∧
        (¬(l.low ≤ value ∧ value ≤ l.high) ∧ failure = l.failure value ∨
          (l.low ≤ value ∧ value ≤ l.high) ∧
            read convert (w.set (value * l.scale) l.field) limits args = .error failure) := by
  rw [read, Failure.bind_eq_error_iff]
  refine or_congr_right (exists_congr fun value => and_congr_right fun _ => ?_)
  rw [Failure.bind_eq_error_iff, Limits.admit_eq_error_iff, Limits.exists_admit_iff]

/-- Without arguments nothing is read. -/
theorem read_nil (convert : α → Except Failure Int) (w : WallTime) (limits : List Limits) :
    read convert w limits [] = .ok w := by
  cases limits <;> rfl

/-- Arguments may be made into others first, and then be read. -/
theorem read_map (convert : α → Except Failure Int) (f : β → α) (w : WallTime)
    (limits : List Limits) (args : List β) :
    read convert w limits (args.map f) = read (fun b => convert (f b)) w limits args := by
  induction args generalizing w limits with
  | nil => rw [List.map_nil, read_nil, read_nil]
  | cons b rest ih =>
    cases limits with
    | nil => rfl
    | cons l limits =>
      rw [List.map_cons, read, read]
      simp only [ih]

/-- **Reading the fields of a wall time strictly** is checking it. -/
theorem strictWallTime_integers (w : WallTime) :
    strictWallTime (w.toList.map Argument.integer) = w.check := by
  have hlength : (w.toList.map Argument.integer).length ≤ wallLimits.length := Nat.le_refl 7
  rw [strictWallTime, if_pos hlength, read_map]
  rfl

end ArgumentList

namespace WallTime

/-- A wall time **within the limits** of its fields. -/
def IsWithinLimits (w : WallTime) : Prop :=
  ∀ l ∈ ArgumentList.wallLimits, l.low ≤ w.get l.field ∧ w.get l.field ≤ l.high

instance (w : WallTime) : Decidable w.IsWithinLimits :=
  inferInstanceAs (Decidable (∀ _ ∈ _, _))

/-- The limits, field by field. -/
theorem isWithinLimits_iff {w : WallTime} :
    w.IsWithinLimits ↔
      (ArgumentList.minYear ≤ w.year ∧ w.year ≤ ArgumentList.maxYear) ∧
        (1 ≤ w.month ∧ w.month ≤ 12) ∧ (1 ≤ w.day ∧ w.day ≤ 31) ∧ (0 ≤ w.hour ∧ w.hour ≤ 59) ∧
        (0 ≤ w.minute ∧ w.minute ≤ 59) ∧ (0 ≤ w.second ∧ w.second ≤ 59) ∧
        (0 ≤ w.nanoseconds ∧ w.nanoseconds ≤ 999999999) := by
  simp [IsWithinLimits, ArgumentList.wallLimits, ArgumentList.fieldLimits, get]

/-- **What gets past the check** is the wall time, if it is within the limits. -/
theorem check_eq_ok_iff {w v : WallTime} : w.check = .ok v ↔ w.IsWithinLimits ∧ v = w := by
  rw [isWithinLimits_iff, check, toList]
  simp only [ArgumentList.wallLimits, ArgumentList.fieldLimits, List.cons_append, List.nil_append,
    ArgumentList.read_cons_eq_ok_iff, ArgumentList.read_nil, Except.ok.injEq, exists_eq_left', set,
    Int.mul_one, and_assoc, eq_comm (a := v)]

/-! ### Wall times that can be shown -/

/-- The year is checked first, and the failure of the check is its own. -/
theorem check_eq_error_of_year {w : WallTime}
    (h : ¬(ArgumentList.minYear ≤ w.year ∧ w.year ≤ ArgumentList.maxYear)) :
    w.check = .error (.fieldRange "year") := by
  rw [check, toList, ArgumentList.wallLimits, ArgumentList.fieldLimits, List.cons_append,
    ArgumentList.read_cons_eq_error_iff]
  exact Or.inr ⟨w.year, rfl, Or.inl ⟨h, rfl⟩⟩

/-- What a calendar and a clock show is within its limits, save for the year. -/
theorem isWithinLimits_iff_of_isShowable {w : WallTime} (hw : w.IsShowable)
    (hnano : 0 ≤ w.nanoseconds ∧ w.nanoseconds < nanosPerSecond) :
    w.IsWithinLimits ↔ ArgumentList.minYear ≤ w.year ∧ w.year ≤ ArgumentList.maxYear := by
  rw [isWithinLimits_iff]
  refine ⟨fun h => h.1, fun hyear => ?_⟩
  obtain ⟨⟨hhour, hminute, hsecond⟩, hmonth, hday⟩ := hw
  have hlength := (monthLength_bounds w.year w.month).2
  rw [nanosPerSecond] at hnano
  dsimp only [date] at hmonth hday
  refine ⟨hyear, hmonth, ?_, ?_, hminute, hsecond, ?_⟩ <;> omega

/-- **The check of a wall time that can be shown** asks for its year alone. -/
theorem check_of_isShowable {w : WallTime} (hw : w.IsShowable)
    (hnano : 0 ≤ w.nanoseconds ∧ w.nanoseconds < nanosPerSecond) :
    w.check = if ArgumentList.minYear ≤ w.year ∧ w.year ≤ ArgumentList.maxYear then .ok w
      else .error (.fieldRange "year") := by
  split_ifs with hyear
  · exact check_eq_ok_iff.mpr ⟨(isWithinLimits_iff_of_isShowable hw hnano).mpr hyear, rfl⟩
  · exact check_eq_error_of_year hyear

end WallTime

end CivilTime
