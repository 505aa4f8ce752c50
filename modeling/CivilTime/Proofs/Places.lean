import CivilTime.Proofs.Limits

/-!
# The places of an argument list

Arguments and limits are read side by side, so a reading is about **places**, each of which has
limits and an argument (`CivilTime.ArgumentList.Place`). What is read at one place does not depend
on any other (`CivilTime.ArgumentList.readAt`), and only two things can come of all of them:

* every place answers, and the fields hold what was read at their places
  (`CivilTime.ArgumentList.readPlaces_eq_ok_iff`);
* some places answer, and **the first that does not** decides the failure
  (`CivilTime.ArgumentList.readPlaces_eq_error_iff`).

A list is normalized by reading its places, if its shape is accepted
(`CivilTime.ArgumentList.normalizeWith_eq`).
-/

namespace CivilTime

/-! ### Fields -/

theorem WallTime.get_set (w : WallTime) (value : Int) (field field' : WallTime.Field) :
    (w.set value field).get field' = if field' = field then value else w.get field' := by
  cases field <;> cases field' <;> rfl

/-- A wall time is known by its fields. -/
theorem WallTime.eq_of_get_eq {w v : WallTime} (h : ∀ field, w.get field = v.get field) :
    w = v := by
  cases w
  cases v
  exact (WallTime.mk.injEq ..).mpr
    ⟨h .year, h .month, h .day, h .hour, h .minute, h .second, h .nanoseconds⟩

/-- The name of a field in a failure. -/
def WallTime.Field.shownAs : WallTime.Field → String
  | .year => "year"
  | .month => "mon"
  | .day => "mday"
  | .hour => "hour"
  | .minute => "min"
  | .second => "sec"
  | .nanoseconds => "subsecx"

namespace ArgumentList

/-- A **place** of an argument list: the limits for it, and the argument that is there. -/
abbrev Place (α : Type) : Type :=
  Limits × α

variable {α : Type} {convert : α → Except Failure Int} {w v : WallTime} {places : List (Place α)}
  {args : List α} {failure : Failure}

/-! ### Reading place by place -/

/-- **What is read at one place**, in the units of its field. -/
def readAt (convert : α → Except Failure Int) (place : Place α) : Except Failure Int := do
  Limits.admit place.1 (← convert place.2)

theorem readAt_eq_ok_iff {place : Place α} {units : Int} :
    readAt convert place = .ok units ↔
      ∃ value, convert place.2 = .ok value ∧ (place.1.low ≤ value ∧ value ≤ place.1.high) ∧
        units = value * place.1.scale := by
  rw [readAt, Failure.bind_eq_ok_iff]
  exact exists_congr fun value => and_congr_right fun _ => Limits.admit_eq_ok_iff

theorem readAt_eq_error_iff {place : Place α} :
    readAt convert place = .error failure ↔
      convert place.2 = .error failure ∨
        ∃ value, convert place.2 = .ok value ∧ ¬(place.1.low ≤ value ∧ value ≤ place.1.high) ∧
          failure = place.1.failure value := by
  rw [readAt, Failure.bind_eq_error_iff]
  exact or_congr_right
    (exists_congr fun value => and_congr_right fun _ => Limits.admit_eq_error_iff)

/-- Reading at one place after the other. -/
def readPlaces (convert : α → Except Failure Int) (w : WallTime) :
    List (Place α) → Except Failure WallTime
  | [] => .ok w
  | place :: places => do
    let units ← readAt convert place
    readPlaces convert (w.set units place.1.field) places

/-- **Arguments are read place by place.** -/
theorem read_eq_readPlaces (w : WallTime) (limits : List Limits) (args : List α) :
    read convert w limits args = readPlaces convert w (limits.zip args) := by
  induction limits generalizing w args with
  | nil => cases args <;> rfl
  | cons l limits ih =>
    cases args with
    | nil => rfl
    | cons a args =>
      rw [read, List.zip_cons_cons, readPlaces, readAt]
      cases convert a with
      | error f => rfl
      | ok value =>
        dsimp only [bind, Except.bind]
        cases l.admit value with
        | error f => rfl
        | ok units => exact ih (w.set units l.field) args

/-- **A reading answers** if every place does. The fields then hold what was read at their places,
and the others what they held before. -/
theorem readPlaces_eq_ok_iff (hdistinct : (places.map (·.1.field)).Nodup) :
    readPlaces convert w places = .ok v ↔
      (∀ place ∈ places, readAt convert place = .ok (v.get place.1.field)) ∧
        ∀ field, (∀ place ∈ places, place.1.field ≠ field) → v.get field = w.get field := by
  induction places generalizing w with
  | nil =>
    rw [readPlaces, Except.ok.injEq]
    constructor
    · rintro rfl
      exact ⟨fun place hplace => absurd hplace List.not_mem_nil, fun field _ => rfl⟩
    · rintro ⟨-, hget⟩
      exact WallTime.eq_of_get_eq fun field =>
        (hget field fun place hplace => absurd hplace List.not_mem_nil).symm
  | cons first places ih =>
    rw [List.map_cons, List.nodup_cons] at hdistinct
    obtain ⟨hfirst, hdistinct⟩ := hdistinct
    have hother : ∀ place ∈ places, place.1.field ≠ first.1.field := fun place hplace heq =>
      hfirst (heq ▸ List.mem_map_of_mem hplace)
    rw [readPlaces, Failure.bind_eq_ok_iff]
    simp only [ih hdistinct, List.forall_mem_cons]
    constructor
    · rintro ⟨units, hread, hplaces, hget⟩
      -- no later place has the field of the first, so it still holds what was read there
      have hunits : v.get first.1.field = units := by
        rw [hget first.1.field hother, WallTime.get_set, if_pos rfl]
      refine ⟨⟨hunits ▸ hread, hplaces⟩, fun field hfield => ?_⟩
      rw [hget field hfield.2, WallTime.get_set, if_neg hfield.1.symm]
    · rintro ⟨⟨hread, hplaces⟩, hget⟩
      refine ⟨v.get first.1.field, hread, hplaces, fun field hfield => ?_⟩
      rw [WallTime.get_set]
      split_ifs with heq
      · rw [heq]
      · exact hget field ⟨fun h => heq h.symm, hfield⟩

/-- **Where a reading ends**: at the first place that fails. -/
theorem readPlaces_eq_error_iff :
    readPlaces convert w places = .error failure ↔
      ∃ before place after, places = before ++ place :: after ∧
        (∀ earlier ∈ before, ∃ units, readAt convert earlier = .ok units) ∧
          readAt convert place = .error failure := by
  induction places generalizing w with
  | nil => exact iff_of_false (by rintro ⟨⟩) Failure.not_exists_first_nil
  | cons first places ih =>
    rw [readPlaces, Failure.bind_eq_error_iff, Failure.exists_first_cons_iff]
    simp only [ih, exists_and_right]

/-! ### The whole list -/

/-- The places of limits with different fields have different fields. -/
theorem nodup_zip {limits : List Limits} (h : (limits.map (·.field)).Nodup) (args : List α) :
    ((limits.zip args).map (·.1.field)).Nodup := by
  have hfst : (limits.zip args).map Prod.fst = limits.take (min limits.length args.length) := by
    rw [List.zip_eq_zip_take_min, List.map_fst_zip (by simp)]
  have hfields : (limits.zip args).map (·.1.field) =
      (limits.take (min limits.length args.length)).map (·.field) := by
    rw [← hfst, List.map_map]
    rfl
  rw [hfields]
  exact h.sublist ((List.take_sublist _ _).map _)

/-- A list of arguments has **a shape that is accepted**. -/
def IsAccepted (args : List α) : Prop :=
  args.length = 10 ∨ 1 ≤ args.length ∧ args.length ≤ 8

instance (args : List α) : Decidable (IsAccepted args) :=
  inferInstanceAs (Decidable (_ ∨ _))

/-- **The places of a list of arguments**, from the year down. -/
def placesOf (args : List α) : List (Place α) :=
  argumentLimits.zip (if args.length = 10 then fromArrayOrder args else args)

theorem nodup_placesOf (args : List α) : ((placesOf args).map (·.1.field)).Nodup :=
  nodup_zip (by decide) _

theorem mem_of_mem_fromArrayOrder {a : α} (h : a ∈ fromArrayOrder args) : a ∈ args := by
  unfold fromArrayOrder at h
  split at h
  · simp only [List.mem_cons, List.not_mem_nil, or_false] at h ⊢
    rcases h with h | h | h | h | h | h <;> simp only [h, true_or, or_true]
  · exact h

/-- What is read was given. -/
theorem snd_mem_of_mem_placesOf {place : Place α} (h : place ∈ placesOf args) :
    place.2 ∈ args := by
  have hread := (List.of_mem_zip h).2
  split_ifs at hread
  · exact mem_of_mem_fromArrayOrder hread
  · exact hread

/-- **A list is normalized** by reading its places, if its shape is accepted. -/
theorem normalizeWith_eq (convert : α → Except Failure Int) (args : List α) :
    normalizeWith convert args =
      if IsAccepted args then readPlaces convert {} (placesOf args)
      else .error (.argumentCount args.length) := by
  rw [normalizeWith, arrange, placesOf]
  by_cases harray : args.length = 10
  · have haccepted : IsAccepted args := Or.inl harray
    rw [if_pos harray, if_pos harray, if_pos haccepted, ← read_eq_readPlaces]
    rfl
  · rw [if_neg harray, if_neg harray]
    by_cases hlength : 1 ≤ args.length ∧ args.length ≤ 8
    · have haccepted : IsAccepted args := Or.inr hlength
      rw [if_pos hlength, if_pos haccepted, ← read_eq_readPlaces]
      rfl
    · have hrefused : ¬IsAccepted args := not_or.mpr ⟨harray, hlength⟩
      rw [if_neg hlength, if_neg hrefused]
      rfl

/-- **A value beyond the limits of an argument fails for the field**, under the name that this is
shown by. -/
theorem failure_of_mem_argumentLimits {l : Limits} (h : l ∈ argumentLimits) (value : Int) :
    l.failure value = .fieldRange l.field.shownAs := by
  have hnames : ∀ l ∈ argumentLimits, l.failure value = .fieldRange l.field.shownAs := by
    simp [argumentLimits, fieldLimits, WallTime.Field.shownAs]
  exact hnames l h

/-- Every failure at a place names the field there. -/
theorem failure_of_mem_placesOf {place : Place α} (h : place ∈ placesOf args) (value : Int) :
    place.1.failure value = .fieldRange place.1.field.shownAs :=
  failure_of_mem_argumentLimits (List.of_mem_zip h).1 value

end ArgumentList

end CivilTime
