import CivilTime.Proofs.Places
import CivilTime.Time

/-!
# Two ways past the same limits

A wall time may be given as a list of arguments, and is normalized; or it is there already, and is
checked. Either way its fields are read down to the second and held against the same limits
(`CivilTime.ArgumentList.normalize_fields`), and **only then** the ways part: the arguments may go
on with microseconds (`CivilTime.ArgumentList.normalize_fields_append`), and the wall time goes on
with its nanoseconds (`CivilTime.WallTime.check_eq_normalize`). So the first field beyond its limits
is the same, and nothing but the fraction of the second can make a difference.

Other than the check, normalizing puts values into the fields, and not always the values that it has
read: microseconds become nanoseconds. What it makes is within the limits nevertheless, because it
starts within them (`CivilTime.WallTime.isWithinLimits_default`) and every value that is let through
leads to no other place (`CivilTime.WallTime.IsWithinLimits.set`). A second check finds nothing
(`CivilTime.Time.ofArguments_eq_ofChecked`).
-/

namespace CivilTime

/-- The fields of a wall time down to the second. -/
def WallTime.fields (w : WallTime) : List Int :=
  [w.year, w.month, w.day, w.hour, w.minute, w.second]

namespace ArgumentList

variable {α : Type} {convert : α → Except Failure Int} {w v : WallTime} {limits : List Limits}
  {args : List α}

/-- **A reading may be broken off** and taken up again with the arguments that are left. -/
theorem read_append (h : limits.length = args.length) (limits' : List Limits) (args' : List α) :
    read convert w (limits ++ limits') (args ++ args') =
      (do read convert (← read convert w limits args) limits' args') := by
  induction limits generalizing w args with
  | nil =>
    obtain rfl := List.length_eq_zero_iff.mp h.symm
    rfl
  | cons l limits ih =>
    cases args with
    | nil => cases h
    | cons a args =>
      rw [List.cons_append, List.cons_append, read, read]
      cases convert a with
      | error failure => rfl
      | ok value =>
        dsimp only [bind, Except.bind]
        cases l.admit value with
        | error failure => rfl
        | ok units => exact ih (Nat.succ.inj h)

/-! ### The fields, and the fraction of the second -/

/-- The limits of microseconds, which are put into the nanoseconds. -/
def microsecondLimits : Limits :=
  { field := .nanoseconds, low := 0, high := 999999, scale := 1000,
    failure := fun _ => .fieldRange "subsecx" }

/-- The limits of nanoseconds. -/
def nanosecondLimits : Limits :=
  { field := .nanoseconds, low := 0, high := 999999999,
    failure := fun value => .componentRange "nanoseconds" value }

/-- **The fields down to the second are normalized** by the limits that a wall time has for them. -/
theorem normalize_fields (w : WallTime) :
    normalize (w.fields.map Argument.integer) = read Except.ok {} fieldLimits w.fields := by
  have hread : normalize (w.fields.map Argument.integer) =
      read Argument.toInteger {} (fieldLimits ++ [microsecondLimits])
        ((w.fields ++ []).map Argument.integer) := rfl
  have hlength : fieldLimits.length = w.fields.length := rfl
  rw [hread, read_map, read_append hlength]
  -- nothing is left to be read for the fraction of the second
  exact bind_pure _

/-- A fraction of the second is read after the fields, and put where its limits say. -/
theorem read_fields_append (w : WallTime) (l : Limits) (value : Int) :
    read Except.ok {} (fieldLimits ++ [l]) (w.fields ++ [value]) =
      (do
        let v ← normalize (w.fields.map Argument.integer)
        return v.set (← l.admit value) l.field) := by
  have hlength : fieldLimits.length = w.fields.length := rfl
  rw [read_append hlength, normalize_fields]
  rfl

/-- **Microseconds** are normalized after the fields, and become nanoseconds. -/
theorem normalize_fields_append (w : WallTime) (microseconds : Int) :
    normalize ((w.fields ++ [microseconds]).map Argument.integer) =
      (do
        let v ← normalize (w.fields.map Argument.integer)
        return v.set (← microsecondLimits.admit microseconds) .nanoseconds) := by
  have hread : normalize ((w.fields ++ [microseconds]).map Argument.integer) =
      read Argument.toInteger {} (fieldLimits ++ [microsecondLimits])
        ((w.fields ++ [microseconds]).map Argument.integer) := rfl
  rw [hread, read_map]
  exact read_fields_append w microsecondLimits microseconds

end ArgumentList

namespace WallTime

variable {w : WallTime}

/-- **Nanoseconds** are checked after the fields, and stay what they are. -/
theorem check_eq_normalize (w : WallTime) :
    w.check =
      (do
        let v ← ArgumentList.normalize (w.fields.map Argument.integer)
        return v.set (← ArgumentList.nanosecondLimits.admit w.nanoseconds) .nanoseconds) :=
  ArgumentList.read_fields_append w ArgumentList.nanosecondLimits w.nanoseconds

/-- **Fields and a fraction of the second that is within its limits** fail as the fields do. -/
theorem check_eq_error_iff (hnano : 0 ≤ w.nanoseconds ∧ w.nanoseconds < nanosPerSecond)
    {failure : Failure} :
    w.check = .error failure ↔
      ArgumentList.normalize (w.fields.map Argument.integer) = .error failure := by
  have hadmit : ArgumentList.nanosecondLimits.admit w.nanoseconds = .ok w.nanoseconds := by
    refine ArgumentList.Limits.admit_eq_ok_iff.mpr ⟨?_, (Int.mul_one _).symm⟩
    rw [nanosPerSecond] at hnano
    dsimp only [ArgumentList.nanosecondLimits]
    omega
  rw [check_eq_normalize, hadmit]
  cases ArgumentList.normalize (w.fields.map Argument.integer) with
  | error first => exact Iff.rfl
  | ok v => exact iff_of_false (by rintro ⟨⟩) (by rintro ⟨⟩)

/-- **A wall time that is checked can be normalized**, if its nanoseconds are whole microseconds. -/
theorem normalize_of_check (h : w.check = .ok w) (hmicro : 1000 ∣ w.nanoseconds) :
    ArgumentList.normalize ((w.fields ++ [w.microsecond]).map Argument.integer) = .ok w := by
  obtain ⟨-, -, -, -, -, -, hnano⟩ := isWithinLimits_iff.mp (check_eq_ok_iff.mp h).1
  have hwhole : w.nanoseconds / 1000 * 1000 = w.nanoseconds := Int.ediv_mul_cancel hmicro
  have hadmit : ArgumentList.microsecondLimits.admit w.microsecond = .ok w.nanoseconds := by
    refine ArgumentList.Limits.admit_eq_ok_iff.mpr ⟨?_, hwhole.symm⟩
    dsimp only [ArgumentList.microsecondLimits, microsecond]
    omega
  have hadmit' : ArgumentList.nanosecondLimits.admit w.nanoseconds = .ok w.nanoseconds :=
    ArgumentList.Limits.admit_eq_ok_iff.mpr ⟨hnano, (Int.mul_one _).symm⟩
  -- both ways put the same nanoseconds into the same fields
  rw [check_eq_normalize, hadmit'] at h
  rw [ArgumentList.normalize_fields_append, hadmit]
  exact h

/-! ### Within the limits from the start -/

/-- The values that fields have by default are within their limits. -/
theorem isWithinLimits_default : ({} : WallTime).IsWithinLimits := by decide

/-- **A value that is let through leads to no field beyond its limits.** -/
theorem IsWithinLimits.set (hw : w.IsWithinLimits) {l : ArgumentList.Limits}
    (hl : l ∈ ArgumentList.argumentLimits) {value : Int}
    (hvalue : l.low ≤ value ∧ value ≤ l.high) :
    (w.set (value * l.scale) l.field).IsWithinLimits := by
  rw [isWithinLimits_iff] at hw ⊢
  simp only [ArgumentList.argumentLimits, ArgumentList.fieldLimits, List.cons_append,
    List.nil_append, List.mem_cons, List.not_mem_nil, or_false] at hl
  -- the limits are the same for both, but for the fraction of the second, where a thousand
  -- nanoseconds stand for each of the microseconds
  rcases hl with rfl | rfl | rfl | rfl | rfl | rfl | rfl <;> dsimp only [WallTime.set] at * <;>
    omega

/-- **Reading keeps within the limits.** -/
theorem isWithinLimits_of_read {α : Type} {convert : α → Except Failure Int} {v : WallTime}
    {limits : List ArgumentList.Limits} {args : List α}
    (hlimits : ∀ l ∈ limits, l ∈ ArgumentList.argumentLimits) (hw : w.IsWithinLimits)
    (h : ArgumentList.read convert w limits args = .ok v) : v.IsWithinLimits := by
  induction limits generalizing w args with
  | nil =>
    obtain rfl : w = v := by
      cases args <;> exact Except.ok.inj h
    exact hw
  | cons l limits ih =>
    cases args with
    | nil =>
      obtain rfl := Except.ok.inj h
      exact hw
    | cons a args =>
      obtain ⟨hl, hrest⟩ := List.forall_mem_cons.mp hlimits
      obtain ⟨value, -, hvalue, hread⟩ := ArgumentList.read_cons_eq_ok_iff.mp h
      exact ih hrest (hw.set hl hvalue) hread

/-- **What a list of arguments is normalized to passes the check**, whatever the conversion. -/
theorem check_of_normalizeWith {α : Type} {convert : α → Except Failure Int} {args : List α}
    (h : ArgumentList.normalizeWith convert args = .ok w) : w.check = .ok w := by
  obtain ⟨read, -, hread⟩ := Failure.bind_eq_ok_iff.mp h
  exact check_eq_ok_iff.mpr
    ⟨isWithinLimits_of_read (fun _ hl => hl) isWithinLimits_default hread, rfl⟩

end WallTime

namespace Time

/-! ### The two ways agree -/

/-- **The second check finds nothing**: the time of a list of arguments is that of the wall time to
which it is normalized. -/
theorem ofArguments_eq_ofChecked (catalog : Catalog) (offset : Offset) (strict : Bool)
    (args : List Argument) :
    ofArguments catalog offset strict args =
      (do ofChecked catalog offset strict (← ArgumentList.normalize args)) := by
  rw [ofArguments]
  cases h : ArgumentList.normalize args with
  | error failure => rfl
  | ok w =>
    change ofWallTime catalog offset strict w = ofChecked catalog offset strict w
    rw [ofWallTime, WallTime.check_of_normalizeWith h]
    rfl

end Time

namespace WallTime

/-- **The check of a wall time and the normalizing of a list of arguments agree.** Where nothing is
wrong with the nanoseconds, the one fails as the other does with the same fields, and so with the
same name of a field. What any list is normalized to passes the check as it is, by whatever
conversion, so that nothing fails there when a time is made of it. And the other way round, a wall
time that passes the check is what its fields are normalized to, if it has whole microseconds. -/
theorem check_agrees_with_normalize :
    (∀ w : WallTime, 0 ≤ w.nanoseconds ∧ w.nanoseconds < nanosPerSecond → ∀ failure,
      w.check = .error failure ↔
        ArgumentList.normalize (w.fields.map Argument.integer) = .error failure) ∧
      (∀ {α : Type} (convert : α → Except Failure Int) (args : List α) (w : WallTime),
        ArgumentList.normalizeWith convert args = .ok w → w.check = .ok w) ∧
      (∀ catalog offset strict args, Time.ofArguments catalog offset strict args =
        (do Time.ofChecked catalog offset strict (← ArgumentList.normalize args))) ∧
      ∀ w : WallTime, w.check = .ok w → 1000 ∣ w.nanoseconds →
        ArgumentList.normalize ((w.fields ++ [w.microsecond]).map Argument.integer) = .ok w :=
  ⟨fun _ hnano _ => check_eq_error_iff hnano, fun _ _ _ => check_of_normalizeWith,
    Time.ofArguments_eq_ofChecked, fun _ => normalize_of_check⟩

/-- A thirteenth month at the sixtieth hour fails for the month either way; half past thirty on the
31st of February is let through either way, with its microseconds. -/
theorem check_agrees_with_normalize_thirtyFirst :
    let w : WallTime := { year := 2024, month := 13, hour := 60, nanoseconds := 5 }
    let v : WallTime := { year := 2024, month := 2, day := 31, hour := 30, minute := 30,
                          nanoseconds := 7000 }
    (0 ≤ w.nanoseconds ∧ w.nanoseconds < nanosPerSecond) ∧
      ArgumentList.normalize (w.fields.map Argument.integer) = .error (.fieldRange "mon") ∧
      w.check = .error (.fieldRange "mon") ∧
      ArgumentList.normalizeWith Except.ok [2024, 2, 31, 30, 30, 0, 7] = .ok v ∧ v.check = .ok v ∧
      1000 ∣ v.nanoseconds ∧
      ArgumentList.normalize ((v.fields ++ [7]).map Argument.integer) = .ok v := by
  intro w v
  obtain ⟨hfails, hpasses, -, hback⟩ := check_agrees_with_normalize
  have hnano : 0 ≤ w.nanoseconds ∧ w.nanoseconds < nanosPerSecond := by decide
  have hmonth :
      ArgumentList.normalize (w.fields.map Argument.integer) = .error (.fieldRange "mon") := rfl
  have hread : ArgumentList.normalizeWith Except.ok [2024, 2, 31, 30, 30, 0, 7] = .ok v := rfl
  have hcheck := hpasses _ _ _ hread
  have hmicro : 1000 ∣ v.nanoseconds := by decide
  exact ⟨hnano, hmonth, (hfails w hnano _).mpr hmonth, hread, hcheck, hmicro, hback v hcheck hmicro⟩

end WallTime

end CivilTime
