import CivilTime.Proofs.Completeness

/-!
# The order of what is resolved

The clocks of a zone do not run evenly: put back, they show again what they have shown
before, and so a later instant may have an earlier wall time. Nevertheless the **earliest**
instants of two wall times are in the order of the wall times
(`CivilTime.Zone.resolve_lt_resolve`). For what is shown again was shown before: where a later
second has an earlier wall time, that wall time has an instant before both
(`CivilTime.Zone.exists_lt_of_wall_lt`), and none of the later ones is the earliest.

All this asks that the clocks are left alone for two days once they have been set. Two
offsets may be almost two days apart, and so may the wall seconds of one second and those of
the next; the second at which the clocks showed the same before is then as far back, and in
between they must not have been set once more.
-/

namespace CivilTime

namespace Zone

variable {z : Zone} {w w₁ w₂ : WallTime} {i i₁ i₂ : Instant}

/-- **What is shown again was shown before.** Of two seconds whose order is not that of their
wall seconds, the later one shows what was shown before the earlier one. -/
theorem exists_lt_of_wall_lt (hz : ∀ s, IsWithinDay (z.utcOffset s))
    (hapart : z.ChangesApart (2 * secondsPerDay) Set.univ) {s s' : Int} (hlt : s < s')
    (hwall : s' + z.utcOffset s' < s + z.utcOffset s) :
    ∃ r, r < s ∧ r + z.utcOffset r = s' + z.utcOffset s' := by
  obtain ⟨hlow, hhigh⟩ := hz s
  obtain ⟨hlow', hhigh'⟩ := hz s'
  -- the second that had this wall time if the offset of the earlier one was in force there
  obtain ⟨r, hr⟩ : ∃ r, r + z.utcOffset s = s' + z.utcOffset s' :=
    ⟨s' + z.utcOffset s' - z.utcOffset s, sub_add_cancel _ _⟩
  have hrs : r < s := by omega
  refine ⟨r, hrs, ?_⟩
  -- from there to the later second it is less than two days, so there is one change at most
  have hstretch : z.ChangesApart (2 * secondsPerDay) (Set.Ioc r s') :=
    hapart.mono le_rfl (Set.subset_univ _)
  rcases hstretch.utcOffset_eq_or hrs.le hlt.le (by omega) with h | h
  · rw [← h, hr]
  · -- without a change between them the two seconds would be in order
    omega

/-- Where changes are a day apart, a wall time is resolved to the earliest of all instants that
show it. -/
theorem shows_and_le_of_resolve (hz : ∀ s, IsWithinDay (z.utcOffset s))
    (hapart : z.ChangesApart secondsPerDay
      (Set.Ioc (w.toSeconds - secondsPerDay) (w.toSeconds + secondsPerDay)))
    {offset : Offset} {strict : Bool} (h : z.resolve offset strict w = .ok i) :
    z.Shows i w ∧ ∀ s, s + z.utcOffset s = w.toSeconds → i.seconds ≤ s := by
  obtain ⟨found, hsearch, hi, hleast⟩ := resolve_eq_ok_iff.mp h
  obtain ⟨-, rfl⟩ := search_eq_ok_iff.mp hsearch
  have hshows := (mem_candidates_iff.mp hi).1
  refine ⟨hshows, fun s hs => ?_⟩
  have hsame : z.Shows { seconds := s, nanoseconds := w.nanoseconds } w :=
    shows_iff.mpr ⟨(shows_iff.mp hshows).1, rfl, hs⟩
  have hle := hleast _ (mem_candidates_of_shows hz hapart hsame)
  rw [Instant.le_iff] at hle
  dsimp only at hle
  omega

/-- **Later wall times are resolved to later instants**, where the clocks are set every other
day at most. Wall times are in the order of their fields, from the year down. -/
theorem resolve_lt_resolve (hz : ∀ s, IsWithinDay (z.utcOffset s))
    (hapart : z.ChangesApart (2 * secondsPerDay) Set.univ)
    {offset₁ offset₂ : Offset} {strict₁ strict₂ : Bool}
    (h₁ : z.resolve offset₁ strict₁ w₁ = .ok i₁) (h₂ : z.resolve offset₂ strict₂ w₂ = .ok i₂)
    (hlt : w₁.toList < w₂.toList) : i₁ < i₂ := by
  have hday : ∀ during, z.ChangesApart secondsPerDay during := fun during =>
    hapart.mono (by decide) (Set.subset_univ _)
  obtain ⟨hshows₁, hleast₁⟩ := shows_and_le_of_resolve hz (hday _) h₁
  obtain ⟨hshows₂, hleast₂⟩ := shows_and_le_of_resolve hz (hday _) h₂
  obtain ⟨hw₁, hnano₁, hwall₁⟩ := shows_iff.mp hshows₁
  obtain ⟨hw₂, hnano₂, hwall₂⟩ := shows_iff.mp hshows₂
  rw [Instant.lt_iff]
  rcases WallTime.toSeconds_lt_or_of_toList_lt hw₁ hw₂ hlt with hlt | ⟨heq, hnano⟩
  · left
    by_contra hcon
    -- the two may not be one instant, and out of order the second was not the earliest
    rcases (not_lt.mp hcon).eq_or_lt with hsame | hlater
    · rw [hsame] at hwall₂
      omega
    · obtain ⟨r, hr, hagain⟩ := exists_lt_of_wall_lt hz hapart hlater (by omega)
      have hle := hleast₁ r (by omega)
      omega
  · -- the same wall seconds have the same earliest second, and the nanoseconds decide
    right
    have hle₁ := hleast₁ i₂.seconds (by omega)
    have hle₂ := hleast₂ i₁.seconds (by omega)
    omega

/-- A quarter to two, in the hour that comes twice, and two o'clock after it, in the night when
the clocks are put back: the one has two instants and the other one, after both. -/
theorem resolve_lt_resolve_putBack :
    (∀ s, IsWithinDay (putBack.utcOffset s)) ∧
      putBack.ChangesApart (2 * secondsPerDay) Set.univ ∧
      putBack.resolve .localZone false
        { year := 2022, month := 11, day := 6, hour := 1, minute := 45 } =
          .ok { seconds := 1667713500 } ∧
      putBack.resolve .localZone true { year := 2022, month := 11, day := 6, hour := 2 } =
        .ok { seconds := 1667718000 } ∧
      ({ seconds := 1667713500 } : Instant) < { seconds := 1667718000 } := by
  have hz : ∀ s, IsWithinDay (putBack.utcOffset s) := fun s => (isTellable_putBack s).1
  have hapart := changesApart_putBack (2 * secondsPerDay) Set.univ
  have h₁ : putBack.resolve .localZone false
      { year := 2022, month := 11, day := 6, hour := 1, minute := 45 } =
        .ok { seconds := 1667713500 } := by decide
  have h₂ : putBack.resolve .localZone true
      { year := 2022, month := 11, day := 6, hour := 2 } = .ok { seconds := 1667718000 } := by
    decide
  exact ⟨hz, hapart, h₁, h₂, resolve_lt_resolve hz hapart h₁ h₂ (by decide)⟩

end Zone

end CivilTime
