import CivilTime.Proofs.Places
import Mathlib.Data.Nat.Find
import Mathlib.Tactic.IntervalCases

/-!
# From the year down

What is read of a list of arguments is read **from the year down**, in whatever order it was given
(`CivilTime.ArgumentList.inReadingOrder`): of ten arguments the first six, backwards, and of up to
eight the first seven, as they are. The rest is never looked at.

Then every position stands for itself. Its argument may not convert, or convert to a value beyond
the limits (`CivilTime.ArgumentList.FailsAt`), and of several positions that fail **the first** one
in this order decides (`CivilTime.ArgumentList.normalizeWith_of_failsAt`); if none fails, each field
has what stood in its position, and the fields that nothing stood for have their defaults
(`CivilTime.ArgumentList.exists_normalizeWith_eq_ok`). What stands behind the first failure makes no
difference (`CivilTime.ArgumentList.normalizeWith_congr_of_failsAt`).

All of this is true of any conversion.
-/

namespace CivilTime

namespace ArgumentList

variable {α : Type} {convert : α → Except Failure Int} {w : WallTime} {places : List (Place α)}
  {place : Place α} {args args' : List α} {failure : Failure} {i : Nat}

/-! ### Positions -/

/-- **The arguments that are read**, from the year down. -/
def inReadingOrder (args : List α) : List α :=
  if args.length = 10 then (args.take 6).reverse else args.take 7

/-- Ten arguments are read from the sixth to the first. -/
theorem fromArrayOrder_eq_reverse (h : args.length = 10) :
    fromArrayOrder args = (args.take 6).reverse := by
  match args, h with
  | [_, _, _, _, _, _, _, _, _, _], _ => rfl

/-- The places of a list are its positions with their limits. -/
theorem placesOf_eq_zip (args : List α) :
    placesOf args = argumentLimits.zip (inReadingOrder args) := by
  rw [placesOf, inReadingOrder]
  split_ifs with harray
  · rw [fromArrayOrder_eq_reverse harray]
  · -- there are no limits for an eighth argument
    have hlength : argumentLimits.length = 7 := rfl
    rw [List.zip_eq_zip_take_min, @List.zip_eq_zip_take_min _ _ argumentLimits (args.take 7),
      List.take_take, List.length_take, hlength, min_eq_right (min_le_left 7 args.length),
      min_eq_left (min_le_left 7 args.length)]

/-- An argument that is read is at the place with the limits of its position. -/
theorem mem_placesOf {l : Limits} {a : α} (hl : argumentLimits[i]? = some l)
    (ha : (inReadingOrder args)[i]? = some a) : (l, a) ∈ placesOf args := by
  rw [placesOf_eq_zip]
  exact List.mem_of_getElem? (List.getElem?_zip_eq_some.mpr ⟨hl, ha⟩)

/-- Behind the last position there are no places, and no place has the field of another position. -/
theorem field_ne_of_mem_placesOf {l : Limits} (hl : argumentLimits[i]? = some l)
    (hnone : (inReadingOrder args)[i]? = none) (hplace : place ∈ placesOf args) :
    place.1.field ≠ l.field := by
  intro heq
  obtain ⟨j, hj⟩ := List.mem_iff_getElem?.mp hplace
  rw [placesOf_eq_zip, List.getElem?_zip_eq_some] at hj
  have hdistinct : (argumentLimits.map (·.field)).Nodup := by decide
  have hsame : i = j := by
    refine (List.getElem?_inj ?_ hdistinct).mp ?_
    · rw [List.length_map]
      exact (List.getElem?_eq_some_iff.mp hl).1
    · rw [List.getElem?_map, List.getElem?_map, hl, hj.1, Option.map_some, Option.map_some, heq]
  rw [← hsame, hnone] at hj
  exact absurd hj.2 nofun

/-- **A position fails**: its argument does not convert, or it converts to a value beyond the limits
of the field there. -/
def FailsAt (convert : α → Except Failure Int) (args : List α) (i : Nat) (failure : Failure) :
    Prop :=
  ∃ l a, argumentLimits[i]? = some l ∧ (inReadingOrder args)[i]? = some a ∧
    (convert a = .error failure ∨
      ∃ value, convert a = .ok value ∧ ¬(l.low ≤ value ∧ value ≤ l.high) ∧
        failure = .fieldRange l.field.shownAs)

/-- A position fails where reading at its place does. -/
theorem failsAt_iff :
    FailsAt convert args i failure ↔
      ∃ place, (placesOf args)[i]? = some place ∧ readAt convert place = .error failure := by
  rw [FailsAt, placesOf_eq_zip, Prod.exists]
  refine exists₂_congr fun l a => ?_
  rw [List.getElem?_zip_eq_some, and_assoc]
  refine and_congr_right fun hl => and_congr_right fun ha => ?_
  have hname : ∀ value, l.failure value = .fieldRange l.field.shownAs :=
    failure_of_mem_argumentLimits (List.mem_of_getElem? hl)
  rw [readAt_eq_error_iff]
  simp only [hname]

/-- A place where no position fails answers. -/
theorem exists_readAt_eq_ok (hplace : (placesOf args)[i]? = some place)
    (hholds : ∀ failure, ¬FailsAt convert args i failure) :
    ∃ units, readAt convert place = .ok units := by
  cases hread : readAt convert place with
  | ok units => exact ⟨units, rfl⟩
  | error failure => exact absurd (failsAt_iff.mpr ⟨place, hplace, hread⟩) (hholds failure)

/-! ### The first failure -/

/-- **The first position that fails decides.** -/
theorem normalizeWith_of_failsAt (haccepted : IsAccepted args)
    (hfails : FailsAt convert args i failure)
    (hfirst : ∀ j < i, ∀ f, ¬FailsAt convert args j f) :
    normalizeWith convert args = .error failure := by
  obtain ⟨place, hplace, hread⟩ := failsAt_iff.mp hfails
  obtain ⟨hi, rfl⟩ := List.getElem?_eq_some_iff.mp hplace
  rw [normalizeWith_eq, if_pos haccepted, readPlaces_eq_error_iff]
  refine ⟨(placesOf args).take i, _, (placesOf args).drop (i + 1), ?_, ?_, hread⟩
  · rw [List.getElem_cons_drop, List.take_append_drop]
  · intro earlier hearlier
    obtain ⟨j, hj, rfl⟩ := List.mem_take_iff_getElem.mp hearlier
    have hlt : j < (placesOf args).length := lt_of_lt_of_le hj (min_le_right _ _)
    exact exists_readAt_eq_ok (List.getElem?_eq_getElem hlt)
      (hfirst j (lt_of_lt_of_le hj (min_le_left _ _)))

/-- **Where no position fails, the list is normalized**: to what its positions are converted to, in
the units of their fields, and to the defaults where it has no positions. -/
theorem exists_normalizeWith_eq_ok (haccepted : IsAccepted args)
    (hholds : ∀ i failure, ¬FailsAt convert args i failure) :
    ∃ w, normalizeWith convert args = .ok w ∧
      ∀ (i : Nat) (l : Limits), argumentLimits[i]? = some l →
        (∀ a, (inReadingOrder args)[i]? = some a →
          ∃ value, convert a = .ok value ∧ w.get l.field = value * l.scale) ∧
        ((inReadingOrder args)[i]? = none → w.get l.field = ({} : WallTime).get l.field) := by
  rw [normalizeWith_eq, if_pos haccepted]
  cases hread : readPlaces convert {} (placesOf args) with
  | error failure =>
    obtain ⟨before, place, after, hsplit, -, hplace⟩ := readPlaces_eq_error_iff.mp hread
    refine absurd (failsAt_iff.mpr ⟨place, ?_, hplace⟩) (hholds before.length failure)
    rw [hsplit, List.getElem?_append_right le_rfl, Nat.sub_self, List.getElem?_cons_zero]
  | ok w =>
    obtain ⟨hplaces, hothers⟩ := (readPlaces_eq_ok_iff (nodup_placesOf args)).mp hread
    refine ⟨w, rfl, fun i l hl => ⟨fun a ha => ?_, fun hnone => ?_⟩⟩
    · obtain ⟨value, hconvert, -, hunits⟩ := readAt_eq_ok_iff.mp (hplaces _ (mem_placesOf hl ha))
      exact ⟨value, hconvert, hunits⟩
    · exact hothers l.field fun place hplace => field_ne_of_mem_placesOf hl hnone hplace

/-! ### What makes no difference -/

/-- Lists of which the same arguments are read in the same order have the same outcome. -/
theorem normalizeWith_congr (haccepted : IsAccepted args) (haccepted' : IsAccepted args')
    (h : inReadingOrder args' = inReadingOrder args) :
    normalizeWith convert args' = normalizeWith convert args := by
  rw [normalizeWith_eq, normalizeWith_eq, if_pos haccepted, if_pos haccepted', placesOf_eq_zip,
    placesOf_eq_zip, h]

/-- **What stands behind a failure makes no difference.** -/
theorem normalizeWith_congr_of_failsAt (haccepted : IsAccepted args)
    (haccepted' : IsAccepted args') (hfails : FailsAt convert args i failure)
    (hupto : (inReadingOrder args').take (i + 1) = (inReadingOrder args).take (i + 1)) :
    normalizeWith convert args' = normalizeWith convert args := by
  classical
  -- the first failure is not behind this one, so up to there the lists are the same
  have hsome : ∃ j f, FailsAt convert args j f := ⟨i, failure, hfails⟩
  obtain ⟨f, hf⟩ := Nat.find_spec hsome
  have hle : Nat.find hsome ≤ i := Nat.find_min' hsome ⟨failure, hfails⟩
  have hsame : ∀ j ≤ i, ∀ f, FailsAt convert args' j f ↔ FailsAt convert args j f := by
    intro j hj f
    have harg : (inReadingOrder args')[j]? = (inReadingOrder args)[j]? := by
      have hj' : j < i + 1 := Nat.lt_succ_of_le hj
      rw [← List.getElem?_take_of_lt hj', hupto, List.getElem?_take_of_lt hj']
    rw [FailsAt, FailsAt, harg]
  have hfirst : ∀ j < Nat.find hsome, ∀ f, ¬FailsAt convert args j f := fun j hj f hfails =>
    Nat.find_min hsome hj ⟨f, hfails⟩
  rw [normalizeWith_of_failsAt haccepted hf hfirst]
  refine normalizeWith_of_failsAt haccepted' ((hsame _ hle f).mpr hf) fun j hj f hfails => ?_
  exact hfirst j hj f ((hsame j (hj.le.trans hle) f).mp hfails)

/-- **Arguments are read from the year down**, and nothing else of the list counts, whatever the
conversion. A list of another shape fails for its length. Else the first position that fails
decides; and if none does, each field has its own argument, converted and in the units of the field,
or its default. So lists have the same outcome if the same arguments are read of them, and even if
these are the same only up to a position that fails. -/
theorem normalizeWith_in_reading_order (convert : α → Except Failure Int) (args : List α) :
    (¬IsAccepted args → normalizeWith convert args = .error (.argumentCount args.length)) ∧
      (IsAccepted args →
        (∀ i failure, FailsAt convert args i failure →
          (∀ j < i, ∀ f, ¬FailsAt convert args j f) →
            normalizeWith convert args = .error failure) ∧
        ((∀ i failure, ¬FailsAt convert args i failure) →
          ∃ w, normalizeWith convert args = .ok w ∧
            ∀ (i : Nat) (l : Limits), argumentLimits[i]? = some l →
              (∀ a, (inReadingOrder args)[i]? = some a →
                ∃ value, convert a = .ok value ∧ w.get l.field = value * l.scale) ∧
              ((inReadingOrder args)[i]? = none → w.get l.field = ({} : WallTime).get l.field)) ∧
        ∀ args', IsAccepted args' →
          (inReadingOrder args' = inReadingOrder args ∨
            ∃ i failure, FailsAt convert args i failure ∧
              (inReadingOrder args').take (i + 1) = (inReadingOrder args).take (i + 1)) →
          normalizeWith convert args' = normalizeWith convert args) := by
  refine ⟨fun hrefused => ?_, fun haccepted => ⟨fun i failure => normalizeWith_of_failsAt haccepted,
    exists_normalizeWith_eq_ok haccepted, fun args' haccepted' hagree => ?_⟩⟩
  · rw [normalizeWith_eq, if_neg hrefused]
  · rcases hagree with hagree | ⟨i, failure, hfails, hupto⟩
    · exact normalizeWith_congr haccepted haccepted' hagree
    · exact normalizeWith_congr_of_failsAt haccepted haccepted' hfails hupto

/-- A list of ten with a second of 99 and a day of 40 fails for the day, and so does a list of four
that goes on with an hour of -1. -/
theorem normalizeWith_in_reading_order_fortieth :
    let ten : List Int := [99, 0, 0, 40, 2, 2024, 8, 8, 8, 8]
    let four : List Int := [2024, 2, 40, -1]
    IsAccepted ten ∧ IsAccepted four ∧ FailsAt Except.ok ten 2 (.fieldRange "mday") ∧
      (∀ j < 2, ∀ f, ¬FailsAt Except.ok ten j f) ∧
      (inReadingOrder four).take 3 = (inReadingOrder ten).take 3 ∧
      normalizeWith Except.ok ten = .error (.fieldRange "mday") ∧
      normalizeWith Except.ok four = .error (.fieldRange "mday") := by
  intro ten four
  have hten : IsAccepted ten := by decide
  have hfour : IsAccepted four := by decide
  have hday : FailsAt Except.ok ten 2 (.fieldRange "mday") :=
    ⟨_, 40, rfl, rfl, Or.inr ⟨40, rfl, by decide, rfl⟩⟩
  have hupto : (inReadingOrder four).take 3 = (inReadingOrder ten).take 3 := rfl
  have hfirst : ∀ j < 2, ∀ f, ¬FailsAt Except.ok ten j f := by
    intro j hj f
    rw [failsAt_iff]
    rintro ⟨place, hplace, hread⟩
    interval_cases j
    · obtain rfl := Option.some.inj hplace
      exact absurd hread nofun
    · obtain rfl := Option.some.inj hplace
      exact absurd hread nofun
  obtain ⟨hfails, -, hagree⟩ := (normalizeWith_in_reading_order Except.ok ten).2 hten
  have houtcome := hfails 2 _ hday hfirst
  exact ⟨hten, hfour, hday, hfirst, hupto, houtcome,
    (hagree four hfour (Or.inr ⟨2, _, hday, hupto⟩)).trans houtcome⟩

end ArgumentList

end CivilTime
