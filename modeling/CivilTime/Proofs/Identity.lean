import CivilTime.Comparison
import CivilTime.Proofs.Present

/-!
# Times as instants

Times are compared by their instants, and instants by their seconds first. This is the order of
time, that of one count of nanoseconds and of the rational number of seconds, **only where the
nanoseconds are less than a second** (`CivilTime.Instant.strictMonoOn_totalNanoseconds`); a second
with too many of them would be put before the next one and yet be later.

All times that can be made keep to this. It makes no difference where their zones come from: those
of a zone store change underneath a time, and the next step finds other ones
(`CivilTime.Time.ReachableAnywhere`, `CivilTime.Time.reachableAnywhere_of_present`).

So the answers to the six questions that can be asked of two times (`CivilTime.Comparison`) are
those for the two numbers, and a time that is shown elsewhere answers all of them as it did before
(`CivilTime.Time.holds_compare_iff`).
-/

namespace CivilTime

/-! ### Questions about two numbers -/

namespace Comparison

/-- What a question asks of two values that are in order. -/
def Relates {α : Type} [LT α] [LE α] : Comparison → α → α → Prop
  | eq, a, b => a = b
  | ne, a, b => a ≠ b
  | lt, a, b => a < b
  | le, a, b => a ≤ b
  | gt, a, b => b < a
  | ge, a, b => b ≤ a

/-- **The answer to a question** is yes where the two values lie to each other as it asks. -/
theorem holds_iff_relates {α : Type} [LinearOrder α] {a b : α} {o : Ordering} (h : o.Compares a b)
    (question : Comparison) : question.holds o = true ↔ question.Relates a b := by
  cases question with
  | eq => exact Ordering.isEq_iff_eq_eq.trans h.eq_eq
  | ne => exact Ordering.isNe_iff_ne_eq.trans (not_congr h.eq_eq)
  | lt => exact Ordering.isLT_iff_eq_lt.trans h.eq_lt
  | le => exact Ordering.isLE_iff_ne_gt.trans h.ne_gt
  | gt => exact Ordering.isGT_iff_eq_gt.trans h.eq_gt
  | ge => exact Ordering.isGE_iff_ne_lt.trans h.ne_lt

end Comparison

/-! ### Instants as numbers -/

namespace Instant

/-- How two instants lie to each other is what their order says. -/
theorem compares_compare (a b : Instant) : (a.compare b).Compares a b :=
  cmp_compares a b

/-- **Seconds first is earliest first**, where the nanoseconds are less than a second. -/
theorem strictMonoOn_totalNanoseconds : StrictMonoOn totalNanoseconds {i | i.IsAdmitted} := by
  rintro a ⟨⟨hlow, hhigh⟩, -⟩ b ⟨⟨hlow', hhigh'⟩, -⟩ hlt
  rw [lt_iff] at hlt
  rw [totalNanoseconds, totalNanoseconds]
  rw [nanosPerSecond] at *
  omega

end Instant

namespace Time

variable {a b t t' : Time}

/-- The number of a time is its count of nanoseconds, taken in seconds. -/
theorem toRat_eq (t : Time) : t.toRat = t.instant.totalNanoseconds / nanosPerSecond := by
  have hnanos : (nanosPerSecond : ℚ) ≠ 0 := by decide
  have hcast : ((nanosPerSecond.toNat : Nat) : ℚ) = nanosPerSecond := by decide
  rw [toRat, Instant.totalNanoseconds, Rat.mkRat_eq_div, hcast, Int.cast_add, Int.cast_mul, add_div,
    mul_div_cancel_right₀ _ hnanos]

/-- **Times lie to each other as their counts of nanoseconds do.** -/
theorem compares_totalNanoseconds (ha : a.instant.IsAdmitted) (hb : b.instant.IsAdmitted) :
    (a.compare b).Compares a.instant.totalNanoseconds b.instant.totalNanoseconds :=
  (Instant.strictMonoOn_totalNanoseconds.compares ha hb).mpr (Instant.compares_compare _ _)

/-- **Times lie to each other as their numbers do.** -/
theorem compares_toRat (ha : a.instant.IsAdmitted) (hb : b.instant.IsAdmitted) :
    (a.compare b).Compares a.toRat b.toRat := by
  have hmono : StrictMono fun n : Int => (n : ℚ) / nanosPerSecond := fun m n hlt =>
    div_lt_div_of_pos_right (Int.cast_lt.mpr hlt) (by decide)
  rw [toRat_eq, toRat_eq]
  exact hmono.compares.mpr (compares_totalNanoseconds ha hb)

/-! ### Times whose zones may change -/

/-- **The times that can be made anywhere**: by an origin and any number of changes after it, where
the zones may be those of **another catalog at every step**. -/
inductive ReachableAnywhere : Time → Prop
  | made (catalog : Catalog) (origin : Origin) {t : Time} (hproper : origin.offset.IsProper)
      (hmade : origin.make catalog = .ok t) : ReachableAnywhere t
  | changed {t t' : Time} (ht : ReachableAnywhere t) (catalog : Catalog) (change : Change)
      (hproper : change.IsProper) (happly : change.apply { t with catalog } = .ok t') :
      ReachableAnywhere t'

/-- With one catalog for all steps, the times are the reachable ones. -/
theorem Reachable.anywhere (h : t.Reachable) : t.ReachableAnywhere := by
  induction h with
  | made catalog origin hproper hmade => exact .made catalog origin hproper hmade
  | @changed t t' _ change hproper happly ih => exact .changed ih t.catalog change hproper happly

/-- The present time of a zone store is one of these times. -/
theorem reachableAnywhere_of_present {s : ZoneStore} {clock : Except Failure Instant}
    (h : (s.present clock).1 = .ok t) : t.ReachableAnywhere := by
  rw [ZoneStore.present_eq] at h
  cases hinstant : clock >>= ofInstant {} .localZone with
  | error failure =>
    rw [hinstant] at h
    cases h
  | ok now =>
    obtain ⟨i, -, hmade⟩ := Failure.bind_eq_ok_iff.mp hinstant
    obtain ⟨hi, rfl⟩ := ZoneStore.ofInstant_local_eq_ok_iff.mp hmade
    rw [hinstant] at h
    cases hzone : s.localZone.1 with
    | error failure =>
      rw [hzone] at h
      cases h
    | ok z =>
      rw [hzone] at h
      obtain rfl := Except.ok.inj h
      refine .made (ZoneStore.localCatalog z.found.zone) (.present i) trivial ?_
      exact now_eq_ok_iff.mpr ⟨i, rfl, ofInstant_eq_ok_iff.mpr ⟨hi.1, hi.2, ⟨_, rfl⟩, rfl⟩⟩

/-! ### Their bounds -/

/-- What is made has an instant within the bounds. -/
theorem Origin.isAdmitted_of_make {catalog : Catalog} {origin : Origin}
    (hproper : origin.offset.IsProper) (h : origin.make catalog = .ok t) :
    t.instant.IsAdmitted :=
  have ht := isSound_of_make hproper h
  ⟨ht.nanoseconds, ht.seconds⟩

/-- **An instant within the bounds stays there**, whatever is done to its time. -/
theorem Change.isAdmitted_of_apply {change : Change} (ht : t.instant.IsAdmitted)
    (h : change.apply t = .ok t') : t'.instant.IsAdmitted := by
  cases change with
  | add a | sub a =>
    obtain ⟨seconds, -, h⟩ := Failure.bind_eq_ok_iff.mp h
    obtain ⟨hbounds, rfl⟩ := shift_eq_ok_iff.mp h
    exact ⟨ht.1, hbounds⟩
  | withOffset | toUtc | toLocal =>
    obtain ⟨-, rfl⟩ := withOffset_eq_ok_iff.mp h
    exact ht

/-- **Every time that can be made anywhere is within the bounds.** -/
theorem ReachableAnywhere.isAdmitted (h : t.ReachableAnywhere) : t.instant.IsAdmitted := by
  induction h with
  | made catalog origin hproper hmade => exact Origin.isAdmitted_of_make hproper hmade
  | @changed t _ _ catalog change _ happly ih =>
    -- the instant is the same in the other catalog, in which the change is made
    exact Change.isAdmitted_of_apply (t := { t with catalog }) ih happly

/-! ### Comparing -/

/-- **A time is its instant.** Whatever two times that can be made are asked about each other, the
answer is that for their numbers, and for their counts of nanoseconds; one of them is not after the
other. A time that is shown in another offset, be it by another catalog, is equal to what it was:
it has the same number and gives the same answers, whichever time it is compared with. -/
theorem holds_compare_iff (ha : a.ReachableAnywhere) (hb : b.ReachableAnywhere) :
    (∀ question : Comparison,
      (question.holds (a.compare b) = true ↔ question.Relates a.toRat b.toRat) ∧
        (question.holds (a.compare b) = true ↔
          question.Relates a.instant.totalNanoseconds b.instant.totalNanoseconds)) ∧
      (a < b ↔ a.toRat < b.toRat) ∧ (a ≤ b ↔ a.toRat ≤ b.toRat) ∧ (a ≤ b ∨ b ≤ a) ∧
      ∀ catalog offset a', withOffset { a with catalog } offset = .ok a' →
        Comparison.eq.holds (a'.compare a) = true ∧
          a'.instant.seconds = a.instant.seconds ∧ a'.subsecond = a.subsecond ∧
          a'.toRat = a.toRat ∧
          ∀ (c : Time) (question : Comparison),
            question.holds (a'.compare c) = question.holds (a.compare c) ∧
              question.holds (c.compare a') = question.holds (c.compare a) := by
  have hinstant : (a.compare b).Compares a.instant b.instant := Instant.compares_compare _ _
  have hcount := compares_totalNanoseconds ha.isAdmitted hb.isAdmitted
  have hnumber := compares_toRat ha.isAdmitted hb.isAdmitted
  refine ⟨fun question => ⟨Comparison.holds_iff_relates hnumber question,
    Comparison.holds_iff_relates hcount question⟩, ?_, ?_, le_total a.instant b.instant, ?_⟩
  · exact hinstant.eq_lt.symm.trans hnumber.eq_lt
  · exact hinstant.ne_gt.symm.trans hnumber.ne_gt
  · intro catalog offset a' hshown
    obtain ⟨-, rfl⟩ := withOffset_eq_ok_iff.mp hshown
    -- the instant is the same, and nothing else is looked at
    refine ⟨?_, rfl, rfl, rfl, fun c question => ⟨rfl, rfl⟩⟩
    exact (Comparison.holds_iff_relates (Instant.compares_compare a.instant a.instant) .eq).mpr rfl

/-- The last nanosecond before 1970, by the clock of a zone store, and the start of 1970 in India:
a second with a fraction comes before the next second. -/
theorem holds_compare_iff_lastNanosecond :
    let a : Time := { instant := { seconds := -1, nanoseconds := 999999999 }, offset := .localZone,
                      catalog := ZoneStore.localCatalog .utc }
    let b : Time := { instant := { seconds := 0 }, offset := .fixed 19800 }
    a.ReachableAnywhere ∧ b.ReachableAnywhere ∧ a.toRat < b.toRat ∧
      a.instant.totalNanoseconds ≠ b.instant.totalNanoseconds ∧
      withOffset { a with catalog := {} } (.fixed 19800) =
        .ok { a with catalog := {}, offset := .fixed 19800 } ∧
      toRat { a with catalog := {}, offset := .fixed 19800 } = a.toRat := by
  intro a b
  have hstore : ((ZoneStore.present {} (.ok a.instant)).1 : Except Failure Time) = .ok a := by
    decide
  have ha : a.ReachableAnywhere := reachableAnywhere_of_present hstore
  have hmade : Reachable b :=
    .made {} (.stamp (.fixed 19800) (.integer 0) (.integer 0)) (by decide : IsWithinDay 19800) rfl
  have h := holds_compare_iff ha hmade.anywhere
  have hshown : withOffset { a with catalog := {} } (.fixed 19800) =
      .ok { a with catalog := {}, offset := .fixed 19800 } := rfl
  exact ⟨ha, hmade.anywhere, (h.1 .lt).1.mp (by decide), (h.1 .ne).2.mp (by decide), hshown,
    (h.2.2.2.2 _ _ _ hshown).2.2.2.1⟩

end Time

end CivilTime
