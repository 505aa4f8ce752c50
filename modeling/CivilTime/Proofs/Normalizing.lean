import CivilTime.Proofs.Places
import Mathlib.Algebra.Order.Floor.Ring
import Mathlib.Data.Rat.Floor

/-!
# What arguments are normalized to

Most kinds of argument are **numbers** (`CivilTime.Argument.number?`), and a number is converted to
an integer by dropping what it has behind the point, that is, **towards zero**
(`CivilTime.towardZero`). The others are refused, with a message of their own.

A fraction is first held against the floating-point numbers, and this is where its size matters:
from 2¹⁰²⁴ – 2⁹⁷⁰ on, it **overflows** (`CivilTime.Argument.IsTooLarge`). It is the one number that
is not converted (`CivilTime.Argument.toInteger_eq_ok_iff`), and the one failure of a conversion
that is not a refusal (`CivilTime.Argument.toInteger_eq_error_iff`).

Put together with what is known of places, this says of any list what becomes of it
(`CivilTime.ArgumentList.normalize_outcomes`).
-/

namespace CivilTime

/-! ### Whole parts -/

/-- The whole number next to a number **in the direction of zero**. -/
def towardZero (q : ℚ) : Int :=
  if 0 ≤ q then ⌊q⌋ else ⌈q⌉

namespace Binary64

/-- What is left of a quotient towards zero is its whole part. -/
theorem wholePart_eq_towardZero (q : ℚ) : wholePart q = towardZero q := by
  rw [wholePart, towardZero]
  split_ifs with h
  · rw [Rat.floor_def', Int.tdiv_eq_ediv_of_nonneg (Rat.num_nonneg.mpr h)]
  · have hnum : 0 ≤ -q.num := by
      have := Rat.num_neg.mpr (not_le.mp h)
      omega
    rw [Rat.ceil_def', ← Int.tdiv_eq_ediv_of_nonneg hnum, Int.neg_tdiv, neg_neg]

theorem cast_pow2 (k : Nat) : (pow2 k : ℚ) = 2 ^ k := by
  change ((2 ^ k : Nat) : ℚ) = 2 ^ k
  rw [Nat.cast_pow, Nat.cast_ofNat]

theorem pow2_le_pow2 {j k : Nat} (h : j ≤ k) : pow2 j ≤ pow2 k :=
  Nat.pow_le_pow_right Nat.two_pos h

/-- The value of a finite number, from its parts. -/
theorem toRat_finite (negative : Bool) (significand : Nat) (exponent : Int) :
    (finite negative significand exponent).toRat =
      (if negative then -1 else 1) * (significand * 2 ^ exponent) := by
  have hsize : (if exponent < 0 then mkRat significand (pow2 exponent.natAbs)
      else mkRat (significand * pow2 exponent.natAbs) 1) = (significand * 2 ^ exponent : ℚ) := by
    split_ifs with h
    · obtain ⟨k, hk⟩ : ∃ k : Nat, exponent = -k := ⟨exponent.natAbs, by omega⟩
      subst hk
      rw [Int.natAbs_neg, Int.natAbs_natCast, Rat.mkRat_eq_div, cast_pow2, zpow_neg, zpow_natCast,
        div_eq_mul_inv, Int.cast_natCast]
    · obtain ⟨k, hk⟩ : ∃ k : Nat, exponent = k := ⟨exponent.natAbs, by omega⟩
      subst hk
      rw [Int.natAbs_natCast, Rat.mkRat_eq_div, zpow_natCast, Int.cast_mul, Int.cast_natCast,
        Int.cast_natCast, cast_pow2, Nat.cast_one, div_one]
  rw [toRat, hsize]
  cases negative with
  | false => exact (one_mul _).symm
  | true => exact (neg_one_mul _).symm

/-- What is beyond the format is as large as half a step above its greatest number. -/
theorem overflows_iff {q : ℚ} : overflows q = true ↔ 2 ^ 1024 - 2 ^ 970 ≤ |q| := by
  have hden : (0 : ℚ) < q.den := Nat.cast_pos.mpr q.pos
  have habs : |q| = q.num.natAbs / q.den := by
    calc |q| = |(q.num : ℚ) / q.den| := by rw [Rat.num_div_den]
      _ = q.num.natAbs / q.den := by rw [abs_div, Nat.abs_cast, Nat.cast_natAbs, Int.cast_abs]
  have hbound : ((pow2 1024 - pow2 970 : Nat) : ℚ) = 2 ^ 1024 - 2 ^ 970 := by
    rw [Nat.cast_sub (pow2_le_pow2 (by decide)), cast_pow2, cast_pow2]
  rw [overflows, decide_eq_true_iff, habs, le_div_iff₀ hden, ← hbound, ← Nat.cast_mul, Nat.cast_le]

end Binary64

/-! ### Numbers -/

namespace Argument

variable {a : Argument} {n : Int} {failure : Failure}

/-- The **number** that an argument is. Truth values are none, and neither is what a floating-point
number is if it is not finite. -/
def number? : Argument → Option ℚ
  | integer n | index n => some n
  | float (.finite negative significand exponent) =>
    some ((if negative then -1 else 1) * (significand * 2 ^ exponent))
  | fraction q => some q
  | float .nan | float (.infinite _) => none
  | nil | boolean _ | text _ | other _ | faulty _ _ => none

/-- A fraction **too large** to be held against the floating-point numbers. -/
def IsTooLarge (a : Argument) : Prop :=
  ∃ q, a = fraction q ∧ 2 ^ 1024 - 2 ^ 970 ≤ |q|

/-- An argument **converts to** an integer: it is a number that is not too large a fraction, and the
integer is next to it in the direction of zero. -/
def ConvertsTo (a : Argument) (n : Int) : Prop :=
  ∃ q, a.number? = some q ∧ ¬a.IsTooLarge ∧ n = towardZero q

/-- An argument that is no number **is refused** with a message. -/
def IsRefused (a : Argument) (message : String) : Prop :=
  a.number? = none ∧ a.toInteger = .error (.conversion message)

/-- A value that fails when it is asked for its integer. -/
def IsFaulty : Argument → Prop
  | faulty _ _ => True
  | _ => False

/-! ### Conversion -/

/-- Only a fraction can be too large. -/
theorem isTooLarge_fraction_iff {q : ℚ} :
    (fraction q).IsTooLarge ↔ Binary64.overflows q = true := by
  rw [Binary64.overflows_iff]
  constructor
  · rintro ⟨q', hq, hlarge⟩
    obtain rfl := Argument.fraction.inj hq
    exact hlarge
  · exact fun hlarge => ⟨q, rfl, hlarge⟩

theorem toInteger_of_isTooLarge (h : a.IsTooLarge) : a.toInteger = .error .overflow := by
  obtain ⟨q, rfl, -⟩ := id h
  rw [toInteger, if_pos (isTooLarge_fraction_iff.mp h)]

/-- **A number is converted towards zero**, unless it is too large a fraction. -/
theorem toInteger_of_number {q : ℚ} (hnumber : a.number? = some q) (hsmall : ¬a.IsTooLarge) :
    a.toInteger = .ok (towardZero q) := by
  cases a with
  | integer m | index m =>
    obtain rfl := Option.some.inj hnumber
    rw [towardZero, Int.floor_intCast, Int.ceil_intCast, ite_self]
    rfl
  | float x =>
    cases x with
    | nan | infinite negative => cases hnumber
    | finite negative significand exponent =>
      obtain rfl := Option.some.inj hnumber
      rw [← Binary64.toRat_finite, ← Binary64.wholePart_eq_towardZero]
      rfl
  | fraction q' =>
    obtain rfl := Option.some.inj hnumber
    have hfits : ¬Binary64.overflows q' = true := fun h => hsmall (isTooLarge_fraction_iff.mpr h)
    rw [← Binary64.wholePart_eq_towardZero, toInteger, if_neg hfits]
  | nil | boolean | text | other | faulty => cases hnumber

/-- **What is no number is refused.** -/
theorem exists_isRefused (hcalm : ¬a.IsFaulty) (h : a.number? = none) :
    ∃ message, a.IsRefused message := by
  cases a with
  | integer | index | fraction => cases h
  | float x =>
    cases x with
    | nan | infinite negative => exact ⟨_, rfl, rfl⟩
    | finite => cases h
  | nil | boolean | text | other => exact ⟨_, rfl, rfl⟩
  | faulty typeName failure => exact absurd trivial hcalm

/-- **What is converted**, and to which integer. -/
theorem toInteger_eq_ok_iff (hcalm : ¬a.IsFaulty) : a.toInteger = .ok n ↔ a.ConvertsTo n := by
  constructor
  · intro h
    cases hnumber : a.number? with
    | none =>
      obtain ⟨message, -, hrefused⟩ := exists_isRefused hcalm hnumber
      rw [hrefused] at h
      exact absurd h nofun
    | some q =>
      by_cases hlarge : a.IsTooLarge
      · rw [toInteger_of_isTooLarge hlarge] at h
        exact absurd h nofun
      · rw [toInteger_of_number hnumber hlarge] at h
        exact ⟨q, hnumber, hlarge, (Except.ok.inj h).symm⟩
  · rintro ⟨q, hnumber, hsmall, rfl⟩
    exact toInteger_of_number hnumber hsmall

/-- **What is not converted**, and why. -/
theorem toInteger_eq_error_iff (hcalm : ¬a.IsFaulty) :
    a.toInteger = .error failure ↔
      (∃ message, a.IsRefused message ∧ failure = .conversion message) ∨
        a.IsTooLarge ∧ failure = .overflow := by
  constructor
  · intro h
    by_cases hlarge : a.IsTooLarge
    · rw [toInteger_of_isTooLarge hlarge] at h
      exact Or.inr ⟨hlarge, (Except.error.inj h).symm⟩
    · cases hnumber : a.number? with
      | none =>
        obtain ⟨message, hrefused⟩ := exists_isRefused hcalm hnumber
        rw [hrefused.2] at h
        exact Or.inl ⟨message, hrefused, (Except.error.inj h).symm⟩
      | some q =>
        rw [toInteger_of_number hnumber hlarge] at h
        exact absurd h nofun
  · rintro (⟨message, hrefused, rfl⟩ | ⟨hlarge, rfl⟩)
    · exact hrefused.2
    · exact toInteger_of_isTooLarge hlarge

end Argument

namespace ArgumentList

open Argument

variable {args : List Argument} {place : Place Argument} {failure : Failure}

/-- A place answers if it holds a number within the limits. -/
theorem exists_readAt_toInteger_iff (hcalm : ¬place.2.IsFaulty) :
    (∃ units, readAt toInteger place = .ok units) ↔
      ∃ n, place.2.ConvertsTo n ∧ place.1.low ≤ n ∧ n ≤ place.1.high := by
  simp only [readAt_eq_ok_iff, toInteger_eq_ok_iff hcalm]
  constructor
  · rintro ⟨units, n, hconverts, hlimits, -⟩
    exact ⟨n, hconverts, hlimits⟩
  · rintro ⟨n, hconverts, hlimits⟩
    exact ⟨_, n, hconverts, hlimits, rfl⟩

/-- **How a place fails**: its argument is refused, beyond the limits, or too large. -/
theorem readAt_toInteger_eq_error_iff (hcalm : ¬place.2.IsFaulty) (hmem : place ∈ placesOf args) :
    readAt toInteger place = .error failure ↔
      (∃ message, place.2.IsRefused message ∧ failure = .conversion message) ∨
        (∃ n, place.2.ConvertsTo n ∧ ¬(place.1.low ≤ n ∧ n ≤ place.1.high) ∧
          failure = .fieldRange place.1.field.shownAs) ∨
        place.2.IsTooLarge ∧ failure = .overflow := by
  rw [readAt_eq_error_iff, toInteger_eq_error_iff hcalm, or_right_comm, or_assoc]
  simp only [toInteger_eq_ok_iff hcalm, failure_of_mem_placesOf hmem]

/-- **What becomes of an argument list** whose values do not fail when they are asked for their
integers. It is normalized if its shape is accepted and every place holds a number within the
limits; the fields are then these numbers, towards zero and in the units of the fields. Else it
fails for its shape, or as the first place does that holds anything else: what is no number is
refused, a number beyond the limits fails for the field there, and too large a fraction
**overflows**. -/
theorem normalize_outcomes (hcalm : ∀ a ∈ args, ¬a.IsFaulty) :
    (∀ w, normalize args = .ok w ↔
      IsAccepted args ∧
        (∀ place ∈ placesOf args, ∃ n, place.2.ConvertsTo n ∧
          (place.1.low ≤ n ∧ n ≤ place.1.high) ∧ w.get place.1.field = n * place.1.scale) ∧
        ∀ field, (∀ place ∈ placesOf args, place.1.field ≠ field) →
          w.get field = ({} : WallTime).get field) ∧
      ∀ f, normalize args = .error f ↔
        ¬IsAccepted args ∧ f = .argumentCount args.length ∨
          IsAccepted args ∧ ∃ before place after, placesOf args = before ++ place :: after ∧
            (∀ earlier ∈ before, ∃ n, earlier.2.ConvertsTo n ∧
              earlier.1.low ≤ n ∧ n ≤ earlier.1.high) ∧
            ((∃ message, place.2.IsRefused message ∧ f = .conversion message) ∨
              (∃ n, place.2.ConvertsTo n ∧ ¬(place.1.low ≤ n ∧ n ≤ place.1.high) ∧
                f = .fieldRange place.1.field.shownAs) ∨
              place.2.IsTooLarge ∧ f = .overflow) := by
  have hplace : ∀ place ∈ placesOf args, ¬place.2.IsFaulty := fun place hmem =>
    hcalm _ (snd_mem_of_mem_placesOf hmem)
  rw [normalize, normalizeWith_eq]
  by_cases haccepted : IsAccepted args
  · rw [if_pos haccepted]
    simp only [haccepted, true_and, not_true_eq_false, false_and, false_or]
    refine ⟨fun w => ?_, fun f => ?_⟩
    · rw [readPlaces_eq_ok_iff (nodup_placesOf args)]
      refine and_congr_left fun _ => forall₂_congr fun place hmem => ?_
      simp only [readAt_eq_ok_iff, toInteger_eq_ok_iff (hplace place hmem)]
    · rw [readPlaces_eq_error_iff]
      refine exists₃_congr fun before place after => and_congr_right fun hsplit => ?_
      have hbefore : ∀ earlier ∈ before, earlier ∈ placesOf args := fun earlier hmem =>
        hsplit ▸ List.mem_append_left _ hmem
      have hmem : place ∈ placesOf args := hsplit ▸ List.mem_append_cons_self
      refine and_congr (forall₂_congr fun earlier hearlier => ?_)
        (readAt_toInteger_eq_error_iff (hplace place hmem) hmem)
      exact exists_readAt_toInteger_iff (hplace earlier (hbefore earlier hearlier))
  · rw [if_neg haccepted]
    simp only [haccepted, false_and, not_false_eq_true, true_and, or_false, iff_false]
    refine ⟨fun w => nofun, fun f => ?_⟩
    rw [Except.error.injEq, eq_comm]

/-- A year of 2024½ is the year 2024, and a month of –½ is the month 0, beyond the limits. -/
theorem normalize_outcomes_halves :
    let args := [fraction (4049 / 2), fraction (-1 / 2)]
    (∀ a ∈ args, ¬a.IsFaulty) ∧ normalize args = .error (.fieldRange "mon") := by
  intro args
  have hcalm : ∀ a ∈ args, ¬a.IsFaulty :=
    List.forall_mem_cons.mpr ⟨id, List.forall_mem_singleton.mpr id⟩
  have hyear : (fraction (4049 / 2)).ConvertsTo 2024 := by
    refine ⟨4049 / 2, rfl, ?_, ?_⟩
    · rw [isTooLarge_fraction_iff]
      decide +kernel
    · rw [towardZero]
      norm_num
  have hmonth : (fraction (-1 / 2)).ConvertsTo 0 := by
    refine ⟨-1 / 2, rfl, ?_, ?_⟩
    · rw [isTooLarge_fraction_iff]
      decide +kernel
    · rw [towardZero]
      norm_num
  refine ⟨hcalm, ((normalize_outcomes hcalm).2 _).mpr (Or.inr ⟨by decide, ?_⟩)⟩
  refine ⟨[_], _, [], rfl, List.forall_mem_singleton.mpr ⟨2024, hyear, by decide⟩, ?_⟩
  exact Or.inr (Or.inl ⟨0, hmonth, by decide, rfl⟩)

/-- **A year that overflows** instead of being beyond its limits. -/
theorem normalize_vast :
    normalize [fraction (10 ^ 400 : Nat)] = .error .overflow := by
  decide +kernel

end ArgumentList

end CivilTime
