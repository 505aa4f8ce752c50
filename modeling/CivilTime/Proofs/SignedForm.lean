import CivilTime.Offset.Reader
import Mathlib.Tactic.Push
import Mathlib.Tactic.SplitIfs

/-!
# The texts of offsets

An offset is read from any text. The texts of the **signed form** – sign, hours, minutes – are
described here as a grammar (`CivilTime.Offset.IsSignedForm`), piece by piece and without saying how
they are read:

| piece | grammar | reader |
|---|---|---|
| a digit, of any script | `CivilTime.Text.IsDigit` | `CivilTime.Text.digitValue?` |
| a sign | `CivilTime.Offset.IsSign` | `CivilTime.Offset.signValue?` |
| two digits | `CivilTime.Offset.IsPair` | `CivilTime.Offset.twoDigits?` |
| the minutes, and a line feed or none | `CivilTime.Offset.IsEnd` | `CivilTime.Offset.minutes?` |
| a colon or none before them | `CivilTime.Offset.IsSignedForm` | `CivilTime.Offset.signedForm?` |

Each reader gives just the values that its piece of the grammar has. The digits of different scripts
lie apart (`CivilTime.Text.digitZeros_apart`), so that a digit has one value; and the colon is none
of them (`CivilTime.Offset.not_isDigit_colon`), so that it cannot be mistaken for the start of the
minutes.

What a text is read as then depends on its form and on nothing else (`CivilTime.Offset.ReadsAs`,
`CivilTime.Offset.parse_eq_iff`).
-/

namespace CivilTime

/-! ### Digits -/

namespace Text

/-- A character **is a digit** of a value: it is so far behind the first of its script. -/
def IsDigit (c : Char) (value : Nat) : Prop :=
  value < 10 ∧ ∃ first ∈ digitZeros, c.toNat = first + value

/-- The digits of one script end before those of the next begin. -/
theorem digitZeros_apart : digitZeros.Pairwise fun first next => first + 10 ≤ next := by
  decide

/-- So a character is a digit of one script only. -/
theorem eq_of_mem_digitZeros {first first' value value' : Nat} (hfirst : first ∈ digitZeros)
    (hfirst' : first' ∈ digitZeros) (hvalue : value < 10) (hvalue' : value' < 10)
    (h : first + value = first' + value') : first = first' := by
  obtain ⟨i, hi, rfl⟩ := List.mem_iff_getElem.mp hfirst
  obtain ⟨j, hj, rfl⟩ := List.mem_iff_getElem.mp hfirst'
  have hapart := List.pairwise_iff_getElem.mp digitZeros_apart
  rcases Nat.lt_trichotomy i j with hlt | rfl | hgt
  · have hbefore := hapart i j hi hj hlt
    omega
  · rfl
  · have hafter := hapart j i hj hi hgt
    omega

/-- **The value of a digit** is read from it, and from nothing else. -/
theorem digitValue?_eq_some_iff {c : Char} {value : Nat} :
    digitValue? c = some value ↔ IsDigit c value := by
  rw [digitValue?, Option.map_eq_some_iff]
  constructor
  · rintro ⟨first, hfind, rfl⟩
    have hrange := List.find?_some hfind
    simp only [decide_eq_true_eq] at hrange
    exact ⟨by omega, first, List.mem_of_find?_eq_some hfind, by omega⟩
  · rintro ⟨hvalue, first, hfirst, hc⟩
    cases hfind : digitZeros.find? fun first => first ≤ c.toNat ∧ c.toNat < first + 10 with
    | none =>
      have hnot := List.find?_eq_none.mp hfind first hfirst
      simp only [decide_eq_true_eq] at hnot
      omega
    | some found =>
      have hrange := List.find?_some hfind
      simp only [decide_eq_true_eq] at hrange
      -- the script that is found is the only one that has the character
      have hmem := List.mem_of_find?_eq_some hfind
      have hfound : c.toNat - found < 10 := by omega
      have hsame : found = first := eq_of_mem_digitZeros hmem hfirst hfound hvalue (by omega)
      exact ⟨found, rfl, by omega⟩

end Text

namespace Offset

open Text (IsDigit)

variable {c tens units : Char} {chars : List Char} {text : String} {sign hours minutes n : Int}
  {r : Except Failure Offset}

/-! ### The pieces of the signed form -/

/-- A character **is a sign**, and multiplies by a number. -/
inductive IsSign : Char → Int → Prop
  | plus : IsSign '+' 1
  | minus : IsSign '-' (-1)

theorem signValue?_eq_some_iff : signValue? c = some sign ↔ IsSign c sign := by
  rw [signValue?]
  constructor
  · intro h
    split_ifs at h with hplus hminus
    · rw [hplus, ← Option.some.inj h]
      exact .plus
    · rw [hminus, ← Option.some.inj h]
      exact .minus
  · rintro (_ | _) <;> rfl

/-- Characters **are a pair of digits**, and write a number. -/
def IsPair (chars : List Char) (n : Int) : Prop :=
  ∃ tens units t u, chars = [tens, units] ∧ IsDigit tens t ∧ IsDigit units u ∧ n = 10 * t + u

/-- Two digits write a number of less than a hundred. -/
theorem IsPair.bounds (h : IsPair chars n) : 0 ≤ n ∧ n ≤ 99 := by
  obtain ⟨tens, units, t, u, -, ⟨ht, -⟩, ⟨hu, -⟩, rfl⟩ := h
  omega

theorem twoDigits?_eq_some_iff : twoDigits? tens units = some n ↔ IsPair [tens, units] n := by
  rw [twoDigits?]
  constructor
  · intro h
    split at h
    · next t u ht hu =>
      exact ⟨tens, units, t, u, rfl, Text.digitValue?_eq_some_iff.mp ht,
        Text.digitValue?_eq_some_iff.mp hu, (Option.some.inj h).symm⟩
    · exact absurd h nofun
  · rintro ⟨tens', units', t, u, hchars, ht, hu, rfl⟩
    obtain ⟨rfl, hrest⟩ := List.cons.inj hchars
    obtain ⟨rfl, -⟩ := List.cons.inj hrest
    rw [Text.digitValue?_eq_some_iff.mpr ht, Text.digitValue?_eq_some_iff.mpr hu]

/-- Characters **are the end** of a signed form: the minutes, and a line feed or none. -/
def IsEnd (chars : List Char) (minutes : Int) : Prop :=
  ∃ pair feed, chars = pair ++ feed ∧ IsPair pair minutes ∧ (feed = [] ∨ feed = ['\n'])

theorem minutes?_eq_some_iff : minutes? chars = some minutes ↔ IsEnd chars minutes := by
  constructor
  · intro h
    match chars, h with
    | [tens, units], h => exact ⟨[tens, units], [], rfl, twoDigits?_eq_some_iff.mp h, Or.inl rfl⟩
    | [tens, units, last], h =>
      rw [minutes?] at h
      split_ifs at h with hlast
      subst hlast
      exact ⟨[tens, units], ['\n'], rfl, twoDigits?_eq_some_iff.mp h, Or.inr rfl⟩
  · rintro ⟨pair, feed, rfl, hpair, hfeed⟩
    obtain ⟨tens, units, -, -, rfl, -⟩ := id hpair
    rcases hfeed with rfl | rfl
    · exact twoDigits?_eq_some_iff.mpr hpair
    · exact twoDigits?_eq_some_iff.mpr hpair

/-- A colon is no digit of any script. -/
theorem not_isDigit_colon (value : Nat) : ¬IsDigit ':' value := by
  intro h
  have hnone : Text.digitValue? ':' = none := by decide
  rw [Text.digitValue?_eq_some_iff.mpr h] at hnone
  exact absurd hnone nofun

/-- So the end of a signed form does not start with one. -/
theorem not_isEnd_colon : ¬IsEnd (':' :: chars) minutes := by
  rintro ⟨pair, feed, hchars, ⟨tens, units, t, u, rfl, ht, -⟩, -⟩
  obtain ⟨rfl, -⟩ := List.cons.inj hchars
  exact not_isDigit_colon t ht

theorem minutesAfterColon?_eq_some_iff :
    minutesAfterColon? chars = some minutes ↔
      ∃ colon rest, chars = colon ++ rest ∧ (colon = [] ∨ colon = [':']) ∧ IsEnd rest minutes := by
  constructor
  · intro h
    rw [minutesAfterColon?.eq_def] at h
    split at h
    · next rest => exact ⟨[':'], rest, rfl, Or.inr rfl, minutes?_eq_some_iff.mp h⟩
    · exact ⟨[], chars, rfl, Or.inl rfl, minutes?_eq_some_iff.mp h⟩
  · rintro ⟨colon, rest, rfl, rfl | rfl, hend⟩
    · rw [List.nil_append, minutesAfterColon?.eq_def]
      split
      · exact absurd hend not_isEnd_colon
      · exact minutes?_eq_some_iff.mpr hend
    · exact minutes?_eq_some_iff.mpr hend

/-! ### The signed form -/

/-- **The signed form**: a sign, two digits of hours, a colon or none, two digits of minutes and a
line feed or none. -/
def IsSignedForm (chars : List Char) (sign hours minutes : Int) : Prop :=
  ∃ c pair colon rest, chars = c :: (pair ++ (colon ++ rest)) ∧ IsSign c sign ∧ IsPair pair hours ∧
    (colon = [] ∨ colon = [':']) ∧ IsEnd rest minutes

/-- **The values of a signed form** are read from it, and no others are read from anything. -/
theorem signedForm?_eq_some_iff :
    signedForm? chars = some (sign, hours, minutes) ↔ IsSignedForm chars sign hours minutes := by
  constructor
  · intro h
    match chars, h with
    | c :: tens :: units :: rest, h =>
      rw [signedForm?] at h
      split at h
      · next s hs ms hsign hhours hminutes =>
        obtain ⟨rfl, rfl, rfl⟩ : s = sign ∧ hs = hours ∧ ms = minutes := by
          simpa using Option.some.inj h
        obtain ⟨colon, after, rfl, hcolon, hend⟩ := minutesAfterColon?_eq_some_iff.mp hminutes
        exact ⟨c, [tens, units], colon, after, rfl, signValue?_eq_some_iff.mp hsign,
          twoDigits?_eq_some_iff.mp hhours, hcolon, hend⟩
      · exact absurd h nofun
  · rintro ⟨c, pair, colon, rest, rfl, hsign, hpair, hcolon, hend⟩
    obtain ⟨tens, units, -, -, rfl, -⟩ := id hpair
    have hminutes := minutesAfterColon?_eq_some_iff.mpr ⟨colon, rest, rfl, hcolon, hend⟩
    change signedForm? (c :: tens :: units :: (colon ++ rest)) = _
    rw [signedForm?, signValue?_eq_some_iff.mpr hsign, twoDigits?_eq_some_iff.mpr hpair, hminutes]

/-- Two and a half hours behind, in the digits of another script and with a line feed. -/
example : signedForm? "-०२:३०\n".toList = some (-1, 2, 30) := by decide

/-- The values of a signed form have their limits, before any of them is checked. -/
theorem IsSignedForm.bounds (h : IsSignedForm chars sign hours minutes) :
    (sign = 1 ∨ sign = -1) ∧ (0 ≤ hours ∧ hours ≤ 99) ∧ 0 ≤ minutes ∧ minutes ≤ 99 := by
  obtain ⟨c, pair, colon, rest, -, hsign, hpair, -, pair', feed, -, hpair', -⟩ := h
  refine ⟨?_, hpair.bounds, hpair'.bounds⟩
  rcases hsign with _ | _
  · exact Or.inl rfl
  · exact Or.inr rfl

/-- The texts for Universal Time have no signed form. -/
theorem not_isSignedForm_of_mem_utcNames (h : text ∈ utcNames) :
    ¬IsSignedForm text.toList sign hours minutes := by
  have hnone : ∀ name ∈ utcNames, signedForm? name.toList = none := by decide
  intro hform
  rw [← signedForm?_eq_some_iff, hnone text h] at hform
  exact absurd hform nofun

/-! ### Reading -/

/-- **What a text is read as.** It is one of the texts for Universal Time, or it has the signed
form, or it is a name. Only a signed form may be refused, for its minutes or for its hours. -/
inductive ReadsAs (text : String) : Except Failure Offset → Prop
  | utc (hname : text = "UTC" ∨ text = "Z" ∨ text = "GMT") : ReadsAs text (.ok .utc)
  | refused {sign hours minutes : Int} (hform : IsSignedForm text.toList sign hours minutes)
      (hbeyond : 59 < minutes ∨ 23 < hours) : ReadsAs text (.error (.fieldRange "utc_offset"))
  | fixed {sign hours minutes : Int} (hform : IsSignedForm text.toList sign hours minutes)
      (hwithin : minutes ≤ 59 ∧ hours ≤ 23) :
      ReadsAs text (.ok (.fixed (sign * (hours * 3600 + minutes * 60))))
  | named (hname : ¬(text = "UTC" ∨ text = "Z" ∨ text = "GMT"))
      (hform : ∀ sign hours minutes, ¬IsSignedForm text.toList sign hours minutes) :
      ReadsAs text (.ok (.named text))

theorem mem_utcNames_iff : text ∈ utcNames ↔ text = "UTC" ∨ text = "Z" ∨ text = "GMT" := by
  simp [utcNames]

/-- Of a signed form with proper minutes the offset is less than a day if the hours are. -/
theorem isWithinDay_of_isSignedForm (h : IsSignedForm chars sign hours minutes)
    (hminutes : minutes ≤ 59) :
    IsWithinDay (sign * (hours * 3600 + minutes * 60)) ↔ hours ≤ 23 := by
  obtain ⟨hsign, hhours, hlow, -⟩ := h.bounds
  rw [IsWithinDay, secondsPerDay]
  rcases hsign with rfl | rfl <;> omega

/-- A signed form is read by its values. -/
theorem parse_of_isSignedForm (h : IsSignedForm text.toList sign hours minutes) :
    parse text = if 59 < minutes then .error outOfRange
      else ofSeconds (sign * (hours * 3600 + minutes * 60)) := by
  have hname : text ∉ utcNames := fun hname => not_isSignedForm_of_mem_utcNames hname h
  rw [parse, if_neg hname, signedForm?_eq_some_iff.mpr h]

/-- **A text is read as something**, whatever it is. -/
theorem exists_readsAs (text : String) : ∃ r, ReadsAs text r := by
  by_cases hname : text = "UTC" ∨ text = "Z" ∨ text = "GMT"
  · exact ⟨_, .utc hname⟩
  · by_cases hform : ∃ sign hours minutes, IsSignedForm text.toList sign hours minutes
    · obtain ⟨sign, hours, minutes, hform⟩ := hform
      by_cases hwithin : minutes ≤ 59 ∧ hours ≤ 23
      · exact ⟨_, .fixed hform hwithin⟩
      · exact ⟨_, .refused hform (by omega)⟩
    · push Not at hform
      exact ⟨_, .named hname hform⟩

/-- **Whatever a text is read as is what comes out.** -/
theorem ReadsAs.eq (h : ReadsAs text r) : parse text = r := by
  cases h with
  | utc hname => rw [parse, if_pos (mem_utcNames_iff.mpr hname)]
  | @refused sign hours minutes hform hbeyond =>
    rw [parse_of_isSignedForm hform]
    split_ifs with hminutes
    · rfl
    · have hday := isWithinDay_of_isSignedForm hform (Int.not_lt.mp hminutes)
      rw [ofSeconds, if_neg (by rw [hday]; omega)]
      rfl
  | @fixed sign hours minutes hform hwithin =>
    have hday := isWithinDay_of_isSignedForm hform hwithin.1
    rw [parse_of_isSignedForm hform, if_neg (Int.not_lt.mpr hwithin.1), ofSeconds,
      if_pos (hday.mpr hwithin.2)]
  | named hname hform =>
    have hnone : signedForm? text.toList = none := by
      rw [Option.eq_none_iff_forall_ne_some]
      rintro ⟨sign, hours, minutes⟩ hsome
      exact hform sign hours minutes (signedForm?_eq_some_iff.mp hsome)
    rw [parse, if_neg (mt mem_utcNames_iff.mp hname), hnone]

/-- **What comes out of a text is what its form says**, and nothing else: Universal Time, a fixed
offset of less than a day or the refusal of one, or a zone of that very name. -/
theorem parse_eq_iff (text : String) (r : Except Failure Offset) :
    parse text = r ↔ ReadsAs text r := by
  constructor
  · rintro rfl
    obtain ⟨r, hr⟩ := exists_readsAs text
    rwa [hr.eq]
  · exact ReadsAs.eq

end Offset

end CivilTime
