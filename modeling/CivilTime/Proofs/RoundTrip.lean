import CivilTime.Proofs.SignedForm

/-!
# Offsets written and read again

Many texts are read as the same offset, but an offset is written in one way only
(`CivilTime.Offset.text`). What has once been read from a text **stays what it is** however often
it is written and read again (`CivilTime.Offset.parse_text_of_parse`).

The offsets that can be read at all are the **readable** ones (`CivilTime.Offset.IsReadable`):

| offset | readable | its text |
|---|---|---|
| Universal Time | yes | one of its three names |
| a fixed offset | in whole minutes, and less than a day | of the signed form |
| the local zone | no | the name of some zone |
| a named zone | unless the name is read as something else | the name |

What is read is readable (`CivilTime.Offset.ReadsAs.isReadable`), and what is readable is read from
its own text (`CivilTime.Offset.IsReadable.readsAs_text`). A fixed offset that is not in whole
minutes is written all the same (`CivilTime.Offset.isSignedForm_fixedChars`), and loses the seconds
beyond them (`CivilTime.Offset.readsAs_fixedText`). They are dropped from the distance and not from
the signed number, which is rounding toward zero on both sides
(`CivilTime.Offset.tdiv_sixty_mul_sixty`).
-/

namespace CivilTime

/-! ### Digits -/

namespace Text

/-- The digit that is written for a value is read as that value. -/
theorem isDigit_digitChar {value : Nat} (h : value < 10) : IsDigit (Nat.digitChar value) value :=
  ⟨h, 0x30, by decide, Nat.toNat_digitChar_of_lt_ten h⟩

/-- A number of less than a hundred fills two places. -/
theorem zeroPaddedChars_two {n : Nat} (h : n < 100) :
    zeroPaddedChars 2 n = [Nat.digitChar (n / 10), Nat.digitChar (n % 10)] := by
  have hsign : ¬(n : Int) < 0 := by omega
  rw [zeroPaddedChars, if_neg hsign, Int.natAbs_natCast]
  rcases Nat.lt_or_ge n 10 with hone | htwo
  · rw [Nat.toDigits_of_lt_base hone, Nat.div_eq_of_lt hone, Nat.mod_eq_of_lt hone]
    rfl
  · have htens : n / 10 < 10 := by omega
    rw [Nat.toDigits_of_base_le (by decide) htwo, Nat.toDigits_of_lt_base htens]
    rfl

end Text

namespace Offset

variable {offset : Offset} {seconds : Int} {text : String}

/-! ### The text of a fixed offset -/

/-- Two places are a pair of digits, and write the number that they were filled with. -/
theorem isPair_zeroPaddedChars {n : Nat} (h : n < 100) : IsPair (Text.zeroPaddedChars 2 n) n :=
  ⟨_, _, n / 10, n % 10, Text.zeroPaddedChars_two h, Text.isDigit_digitChar (by omega),
    Text.isDigit_digitChar (by omega), by omega⟩

/-- **A fixed offset is written in the signed form**, by the hours and minutes of its distance. -/
theorem isSignedForm_fixedChars (h : IsWithinDay seconds) :
    IsSignedForm (fixedChars seconds) (if seconds < 0 then -1 else 1)
      (seconds.natAbs / 3600) (seconds.natAbs % 3600 / 60) := by
  rw [IsWithinDay, secondsPerDay] at h
  have hhours := isPair_zeroPaddedChars (n := seconds.natAbs / 3600) (by omega)
  have hminutes := isPair_zeroPaddedChars (n := seconds.natAbs % 3600 / 60) (by omega)
  refine ⟨_, _, [], _, rfl, ?_, hhours, Or.inl rfl, _, [], (List.append_nil _).symm, hminutes,
    Or.inl rfl⟩
  split_ifs
  · exact .minus
  · exact .plus

/-- **Whole minutes of the distance are whole minutes toward zero.** -/
theorem tdiv_sixty_mul_sixty (seconds : Int) :
    (if seconds < 0 then -1 else 1) *
      ((seconds.natAbs : Int) / 3600 * 3600 + (seconds.natAbs : Int) % 3600 / 60 * 60) =
        seconds.tdiv 60 * 60 := by
  split_ifs with hbehind
  · obtain ⟨distance, hdistance, rfl⟩ : ∃ distance : Int, 0 ≤ distance ∧ -distance = seconds :=
      ⟨-seconds, by omega, Int.neg_neg seconds⟩
    rw [Int.neg_tdiv, Int.tdiv_eq_ediv_of_nonneg hdistance]
    omega
  · rw [Int.tdiv_eq_ediv_of_nonneg (Int.not_lt.mp hbehind)]
    omega

/-- **A fixed offset is read from its own text** but for the seconds beyond the minute. -/
theorem readsAs_fixedText (h : IsWithinDay seconds) :
    ReadsAs (fixedText seconds) (.ok (.fixed (seconds.tdiv 60 * 60))) := by
  have hform := isSignedForm_fixedChars h
  rw [← String.toList_ofList (l := fixedChars seconds)] at hform
  rw [IsWithinDay, secondsPerDay] at h
  rw [← tdiv_sixty_mul_sixty]
  exact .fixed hform (by omega)

/-! ### What can be read -/

/-- **The offsets that can be read**: Universal Time, whole minutes of less than a day, and the
names that are not read as either. -/
def IsReadable : Offset → Prop
  | utc => True
  | fixed seconds => IsWithinDay seconds ∧ 60 ∣ seconds
  | localZone => False
  | named key => ¬(key = "UTC" ∨ key = "Z" ∨ key = "GMT") ∧
      ∀ sign hours minutes, ¬IsSignedForm key.toList sign hours minutes

/-- **What is read is readable.** -/
theorem ReadsAs.isReadable (h : ReadsAs text (.ok offset)) : offset.IsReadable := by
  cases h with
  | utc => trivial
  | fixed hform hwithin =>
    refine ⟨(isWithinDay_of_isSignedForm hform hwithin.1).mpr hwithin.2, ?_⟩
    exact Int.dvd_mul_of_dvd_right (by omega)
  | named hname hform => exact ⟨hname, hform⟩

/-- **What is readable is read from its own text.** -/
theorem IsReadable.readsAs_text (h : offset.IsReadable) : ReadsAs offset.text (.ok offset) := by
  cases offset with
  | utc => exact .utc (Or.inl rfl)
  | fixed seconds =>
    obtain ⟨hday, hminutes⟩ := h
    have hread := readsAs_fixedText hday
    rwa [Int.tdiv_mul_cancel hminutes] at hread
  | localZone => exact absurd h id
  | named key => exact .named h.1 h.2

/-- So the readable offsets are those that some text is read as. -/
theorem isReadable_iff : offset.IsReadable ↔ ∃ text, parse text = .ok offset := by
  constructor
  · exact fun h => ⟨offset.text, h.readsAs_text.eq⟩
  · rintro ⟨text, htext⟩
    obtain ⟨r, hr⟩ := exists_readsAs text
    obtain rfl : r = .ok offset := hr.eq.symm.trans htext
    exact hr.isReadable

/-- The local zone is written as a name, and read as one. -/
example : parse (Offset.text .localZone) = .ok (.named "local") := rfl

/-! ### Written and read again -/

/-- **Writing and reading do not drift apart.** An offset that is read from a text is read again
from its own text; and a fixed offset, which may be any number of seconds of less than a day, is
always read again, as the whole minutes of it toward zero. -/
theorem parse_text_of_parse :
    (∀ text offset, parse text = .ok offset → parse offset.text = .ok offset) ∧
      ∀ seconds, IsWithinDay seconds → ∃ offset, ofSeconds seconds = .ok offset ∧
        parse offset.text = .ok (.fixed (seconds.tdiv 60 * 60)) := by
  refine ⟨fun text offset h => ?_, fun seconds hday => ?_⟩
  · exact (isReadable_iff.mpr ⟨text, h⟩).readsAs_text.eq
  · exact ⟨.fixed seconds, if_pos hday, (readsAs_fixedText hday).eq⟩

/-- Two and a half hours behind, first in the digits of another script and with a line feed; and the
greatest offset behind Universal Time, which is written without its last 59 seconds. -/
theorem parse_text_of_parse_behind :
    parse "-०२:३०\n" = .ok (.fixed (-9000)) ∧ (fixed (-9000)).text = "-0230" ∧
      parse "-0230" = .ok (.fixed (-9000)) ∧
      IsWithinDay (-86399) ∧ ofSeconds (-86399) = .ok (.fixed (-86399)) ∧
      parse (Offset.text (.fixed (-86399))) = .ok (.fixed (-86340)) := by
  have hform : IsSignedForm "-०२:३०\n".toList (-1) 2 30 := signedForm?_eq_some_iff.mp (by decide)
  have hread : parse "-०२:३०\n" = .ok (.fixed (-9000)) := (ReadsAs.fixed hform (by decide)).eq
  have htext : (fixed (-9000)).text = "-0230" := by decide +kernel
  have hday : IsWithinDay (-86399) := by decide
  have hagain := parse_text_of_parse.1 _ _ hread
  rw [htext] at hagain
  obtain ⟨offset, hmade, hwritten⟩ := parse_text_of_parse.2 (-86399) hday
  obtain rfl : Offset.fixed (-86399) = offset := Except.ok.inj hmade
  exact ⟨hread, htext, hagain, hday, hmade, hwritten⟩

end Offset

end CivilTime
