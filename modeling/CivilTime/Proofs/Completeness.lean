import CivilTime.Proofs.Candidates
import CivilTime.Proofs.Changes
import CivilTime.Proofs.Tellable
import CivilTime.ZoneTable

/-!
# What the search finds

The search for the instants of a wall time never looks at a zone as a whole. It asks for
the offset at three seconds a day apart, and then where these lead. An instant is found if
and only if its own offset turns up among the answers, that is, if its second is **reached**
(`CivilTime.Zone.Reaches`, `CivilTime.Zone.mem_candidates_iff_reaches`).

| clocks | what is found | theorem |
|---|---|---|
| set once a day at most, around the wall time | every instant that shows it, unless the zone refuses | `CivilTime.Zone.mem_candidates_iff_of_changesApart` |
| set as often as one likes | the reached ones, and no others | `CivilTime.Zone.mem_candidates_decompose_iff` |

The first row is the use of the probes: of two changes that are a day apart the wall time
lies between, so that one probe is before both, one after both, and one in the middle. In
the second row something may be missing. An offset that is in force for an hour, while
the clocks run through to a third one, is seen by no probe, and a wall time that was shown
in that hour has no instant then (`CivilTime.Zone.resolve_hasty`).
-/

namespace CivilTime

namespace Zone

variable {z : Zone} {w : WallTime} {i : Instant}

/-! ### Reached seconds -/

/-- A second is **reached** if its offset is in force at one of the probes – the wall
seconds, a day before and a day after them – or where the offset at a probe leads. -/
def Reaches (z : Zone) (s : Int) : Prop :=
  let wall := s + z.utcOffset s
  ∃ probe ∈ [wall - secondsPerDay, wall, wall + secondsPerDay],
    z.utcOffset probe = z.utcOffset s ∨ z.utcOffset (wall - z.utcOffset probe) = z.utcOffset s

instance (z : Zone) (s : Int) : Decidable (z.Reaches s) :=
  inferInstanceAs (Decidable (∃ _ ∈ _, _))

/-- The reached seconds are those whose offset is thought possible. -/
theorem reaches_iff_mem_possibleOffsets {s : Int} :
    z.Reaches s ↔ z.utcOffset s ∈ z.possibleOffsets (s + z.utcOffset s) := by
  have hprobed : ∀ wall, z.probedOffsets wall =
      [wall - secondsPerDay, wall, wall + secondsPerDay].map z.utcOffset := fun _ => rfl
  rw [Reaches, possibleOffsets, List.mem_append, hprobed, List.map_map, List.mem_map, List.mem_map,
    ← exists_or]
  exact exists_congr fun probe => and_or_left

/-- **The candidates are the reached instants** among those that show the wall time. -/
theorem mem_candidates_iff_reaches : i ∈ z.candidates w ↔ z.Shows i w ∧ z.Reaches i.seconds := by
  rw [mem_candidates_iff]
  refine and_congr_right fun hshows => ?_
  rw [reaches_iff_mem_possibleOffsets, (shows_iff.mp hshows).2.2]

/-! ### Clocks that are set once a day at most -/

/-- **Everything is reached where changes are a day apart**: the wall seconds are not a
day away from the second, and so the second lies between two probes with one change at most
between them. -/
theorem reaches_of_changesApart {s : Int} (hoffset : IsWithinDay (z.utcOffset s))
    (hapart : z.ChangesApart secondsPerDay
      (Set.Ioc (s + z.utcOffset s - secondsPerDay) (s + z.utcOffset s + secondsPerDay))) :
    z.Reaches s := by
  obtain ⟨hlow, hhigh⟩ := hoffset
  obtain ⟨wall, hwall⟩ : ∃ wall, s + z.utcOffset s = wall := ⟨_, rfl⟩
  rw [hwall] at hapart
  rw [Reaches, hwall]
  -- the wall seconds are one probe, and on the side of the second there is another one
  rcases le_total s wall with hle | hle
  · have hday : z.ChangesApart secondsPerDay (Set.Ioc (wall - secondsPerDay) wall) :=
      hapart.mono le_rfl (Set.Ioc_subset_Ioc_right (by rw [secondsPerDay]; omega))
    rcases hday.utcOffset_eq_or (by omega) hle (by omega) with h | h
    · exact ⟨wall - secondsPerDay, by simp, Or.inl h.symm⟩
    · exact ⟨wall, by simp, Or.inl h.symm⟩
  · have hday : z.ChangesApart secondsPerDay (Set.Ioc wall (wall + secondsPerDay)) :=
      hapart.mono le_rfl (Set.Ioc_subset_Ioc_left (by rw [secondsPerDay]; omega))
    rcases hday.utcOffset_eq_or hle (by omega) (by omega) with h | h
    · exact ⟨wall, by simp, Or.inl h.symm⟩
    · exact ⟨wall + secondsPerDay, by simp, Or.inl h.symm⟩

/-- Where changes are a day apart, whatever shows the wall time is a candidate. -/
theorem mem_candidates_of_shows (hz : ∀ s, IsWithinDay (z.utcOffset s))
    (hapart : z.ChangesApart secondsPerDay
      (Set.Ioc (w.toSeconds - secondsPerDay) (w.toSeconds + secondsPerDay)))
    (hshows : z.Shows i w) : i ∈ z.candidates w := by
  refine mem_candidates_iff_reaches.mpr ⟨hshows, reaches_of_changesApart (hz _) ?_⟩
  rw [(shows_iff.mp hshows).2.2]
  exact hapart

/-- Where changes are a day apart, **the candidates of a wall time are the instants that show
it**. -/
theorem mem_candidates_iff_shows (hz : ∀ s, IsWithinDay (z.utcOffset s))
    (hapart : z.ChangesApart secondsPerDay
      (Set.Ioc (w.toSeconds - secondsPerDay) (w.toSeconds + secondsPerDay))) :
    i ∈ z.candidates w ↔ z.Shows i w :=
  ⟨fun hi => (mem_candidates_iff.mp hi).1, mem_candidates_of_shows hz hapart⟩

/-- **The search is exact where changes are a day apart**, if it answers: then the seconds that it
finds are the seconds that, put ahead by the offset in force, are the wall seconds. It answers if
the savings at all seconds that it asks for are less than a day, too, and is refused otherwise. -/
theorem mem_candidates_iff_of_changesApart (hz : ∀ s, IsWithinDay (z.utcOffset s))
    (hw : w.IsShowable)
    (hapart : z.ChangesApart secondsPerDay
      (Set.Ioc (w.toSeconds - secondsPerDay) (w.toSeconds + secondsPerDay))) :
    (∀ found, z.search w = .ok found →
      ∀ s, s ∈ found.map (·.seconds) ↔ s + z.utcOffset s = w.toSeconds) ∧
      ((∀ s ∈ z.askedSeconds w.toSeconds, IsWithinDay (z.state s).saving) →
        ∃ found, z.search w = .ok found) ∧
      ((∃ s ∈ z.askedSeconds w.toSeconds, ¬IsWithinDay (z.state s).saving) →
        z.search w = .error .badValue) := by
  refine ⟨fun found hfound s => ?_, fun hsaving => ?_, fun ⟨s, hasked, hsaving⟩ => ?_⟩
  · obtain ⟨-, rfl⟩ := search_eq_ok_iff.mp hfound
    rw [List.mem_map]
    constructor
    · rintro ⟨i, hi, rfl⟩
      exact (shows_iff.mp (mem_candidates_iff.mp hi).1).2.2
    · intro hs
      have hshows : z.Shows { seconds := s, nanoseconds := w.nanoseconds } w :=
        shows_iff.mpr ⟨hw, rfl, hs⟩
      exact ⟨_, mem_candidates_of_shows hz hapart hshows, rfl⟩
  · exact ⟨_, search_eq_ok_iff.mpr ⟨fun _ s hs => ⟨hz s, hsaving s hs⟩, rfl⟩⟩
  · cases hsearch : z.search w with
    | ok found => exact absurd ((search_eq_ok_iff.mp hsearch).1 hw s hasked).2 hsaving
    | error failure =>
      -- clocks less than a day away are on the calendar, so there is one failure only
      obtain ⟨-, before, first, after, -, -, -, rfl⟩ := search_eq_error_iff.mp hsearch
      rw [if_pos (isOnCalendar_of_isWithinDay (hz first))]

/-- Clocks that are put back by an hour, at two in the morning of the sixth of November
2022. -/
def putBack : Zone :=
  setOnce { utcOffset := -14400, abbreviation := "EDT", isDst := true, saving := 3600 }
    { utcOffset := -18000, abbreviation := "EST", isDst := false } 1667714400

theorem isTellable_putBack (s : Int) : (putBack.state s).IsTellable :=
  isTellable_region (by decide) s

theorem changesApart_putBack (gap : Int) (during : Set Int) : putBack.ChangesApart gap during :=
  changesApart_setOnce (by decide) (by decide) gap during

/-- Half past one comes twice in that night, and both times are found. -/
theorem candidates_putBack :
    (∀ s, IsWithinDay (putBack.utcOffset s)) ∧
      putBack.search { year := 2022, month := 11, day := 6, hour := 1, minute := 30 } =
        .ok [{ seconds := 1667712600 }, { seconds := 1667716200 }] ∧
      ∀ s, s ∈ [1667712600, 1667716200] ↔ s + putBack.utcOffset s = 1667698200 := by
  have hz : ∀ s, IsWithinDay (putBack.utcOffset s) := fun s => (isTellable_putBack s).1
  have hfound : putBack.search { year := 2022, month := 11, day := 6, hour := 1, minute := 30 } =
      .ok [{ seconds := 1667712600 }, { seconds := 1667716200 }] := by decide
  exact ⟨hz, hfound, (mem_candidates_iff_of_changesApart hz (by decide)
    (changesApart_putBack _ _)).1 _ hfound⟩

/-- A region whose summer time is more than a day ahead of its standard time, while either of them
is less than a day away from Universal Time. -/
def overshootTable : ZoneTable where
  states := [{ utcOffset := -50000, abbreviation := "N", isDst := false },
    { utcOffset := 50000, abbreviation := "D", isDst := true }]
  changes := [(0, 0), (864000, 1)]

/-- The clocks of that region are set once, though its table has two changes: the first of them is
to the state that was there before. -/
theorem changesApart_overshoot (gap : Int) (during : Set Int) :
    (region overshootTable.timeline).ChangesApart gap during := by
  obtain ⟨before, after, hinitial, htransitions⟩ : ∃ before after,
      overshootTable.timeline.initial = before ∧ overshootTable.timeline.transitions =
        [{ since := 0, state := before }, { since := 864000, state := after }] :=
    ⟨_, { utcOffset := 50000, abbreviation := "D", isDst := true, saving := 100000 }, rfl,
      by decide⟩
  have horderly : overshootTable.timeline.IsOrderly (-50000) := by decide
  have hsame : (region overshootTable.timeline).state = (setOnce before after 864000).state := by
    funext s
    rw [state, stateInRange, Timeline.stateAt_eq_stateFrom horderly rfl, hinitial, htransitions,
      setOnce, state, stateInRange, Timeline.stateAt, Timeline.inForce]
    simp only [Timeline.stateFrom]
    split_ifs <;> first | rfl | omega
  have hchanges : (region overshootTable.timeline).changes =
      (setOnce before after 864000).changes := by
    simp only [changes, utcOffset, hsame]
  rw [ChangesApart, hchanges]
  exact changesApart_setOnce (by decide) (by decide) gap during

/-- Neither state of that region is a day away from Universal Time. -/
theorem isWithinDay_overshoot (s : Int) :
    IsWithinDay ((region overshootTable.timeline).utcOffset s) :=
  isWithinDay_region (by decide) s

/-- **The search may be refused where an instant shows the wall time**, though the clocks are set
once only and are never a day away from Universal Time: it asks for a second in a summer time that
is a day and more ahead. -/
theorem search_overshoot :
    let z := region overshootTable.timeline
    let w : WallTime :=
      { year := 1970, month := 1, day := 10, hour := 10, minute := 6, second := 39 }
    (overshootTable.changes.map (·.1)).Pairwise (· < ·) ∧
      (∀ s, IsWithinDay (z.utcOffset s)) ∧ w.IsShowable ∧
      z.ChangesApart secondsPerDay
        (Set.Ioc (w.toSeconds - secondsPerDay) (w.toSeconds + secondsPerDay)) ∧
      863999 + z.utcOffset 863999 = w.toSeconds ∧ z.search w = .error .badValue := by
  exact ⟨by decide, isWithinDay_overshoot, by decide, changesApart_overshoot _ _, by decide,
    by decide⟩

/-! ### Clocks that are set as often as one likes -/

/-- **What is found where the clocks are set as often as one likes.** An instant is among the
candidates of the wall time that it shows if it is reached. The wall time has no candidates if
nothing that shows it is reached, and is resolved to its earliest instant if that one is. -/
theorem mem_candidates_decompose_iff (z : Zone) (i : Instant) :
    (i ∈ z.candidates (z.decompose i).1 ↔ z.Reaches i.seconds) ∧
      (z.candidates (z.decompose i).1 = [] ↔
        ∀ j, z.Shows j (z.decompose i).1 → ¬z.Reaches j.seconds) ∧
      ((∀ j, z.Shows j (z.decompose i).1 → i ≤ j) → ∀ offset strict,
        (z.resolve offset strict (z.decompose i).1 = .ok i ↔
          (∀ s ∈ z.askedSeconds (z.decompose i).1.toSeconds, (z.state s).IsTellable) ∧
            z.Reaches i.seconds)) := by
  obtain ⟨w, hw⟩ : ∃ w, z.Shows i w := ⟨_, rfl⟩
  have hdecompose : (z.decompose i).1 = w := hw
  have hmem : i ∈ z.candidates w ↔ z.Reaches i.seconds := by
    rw [mem_candidates_iff_reaches]
    exact and_iff_right hw
  rw [hdecompose]
  refine ⟨hmem, ?_, fun hleast offset strict => ?_⟩
  · simp only [List.eq_nil_iff_forall_not_mem, mem_candidates_iff_reaches, not_and]
  · rw [resolve_eq_ok_iff]
    constructor
    · rintro ⟨found, hsearch, hi, -⟩
      obtain ⟨htellable, rfl⟩ := search_eq_ok_iff.mp hsearch
      exact ⟨htellable (shows_iff.mp hw).1, hmem.mp hi⟩
    · rintro ⟨htellable, hreaches⟩
      refine ⟨_, search_eq_ok_iff.mpr ⟨fun _ => htellable, rfl⟩, hmem.mpr hreaches, fun j hj => ?_⟩
      exact hleast j (mem_candidates_iff.mp hj).1

/-- A region that runs through three offsets in an hour: none, two hours and three. -/
def hastyTable : ZoneTable where
  states := [{ utcOffset := 0, abbreviation := "A", isDst := false },
    { utcOffset := 7200, abbreviation := "B", isDst := false },
    { utcOffset := 10800, abbreviation := "C", isDst := false }]
  changes := [(0, 1), (3600, 2)]

/-- **A wall time that is shown may have no candidates**: the clocks of this region show two in
the morning of the first of January 1970 when that year starts in Universal Time, and nowhere
else; and it is refused as a time that no instant shows. -/
theorem resolve_hasty :
    (hastyTable.changes.map (·.1)).Pairwise (· < ·) ∧
      (∀ state ∈ hastyTable.states, IsWithinDay state.utcOffset) ∧
      (region hastyTable.timeline).tellWall { seconds := 0 } =
        .ok ({ year := 1970, hour := 2 }, { utcOffset := 7200, abbreviation := "B", isDst := false }) ∧
      (region hastyTable.timeline).search { year := 1970, hour := 2 } = .ok [] ∧
      (region hastyTable.timeline).resolve (.named "hasty") false { year := 1970, hour := 2 } =
        .error (.unresolved { year := 1970, hour := 2 } (.named "hasty")) := by
  decide

end Zone

end CivilTime
