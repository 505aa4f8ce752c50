import CivilTime.Proofs.Order
import CivilTime.Proofs.Reachable

/-!
# Back from the array form

The array form of a time has its wall time without the fraction of the second, and its offset. There
are two ways back: as a list of arguments, of which the first six are read
(`CivilTime.Time.ofArguments`), or as it is (`CivilTime.Time.ofArrayForm`).

**The ways agree.** Arguments and fields are held against the same limits in the same order, so that
the list is normalized to what the check of the wall time makes of it
(`CivilTime.ArrayForm.normalize_toArguments`). A calendar and a clock show nothing that is beyond
these limits but the year, and so only the year, the zone and the wall time itself can be in the
way (`CivilTime.Time.ofArguments_eq_ofArrayForm`).

**The way back leads to the earliest instant** with the same wall time, where the clocks of the zone
are set once a day at most (`CivilTime.Time.ofArrayForm_toArrayForm`). It never leads further on,
and leads to the same second unless the clocks have shown the same before.

Either way asks the zone for more than the state of the time itself, and so a time that can be read
may have no way back: its zone refuses (`CivilTime.Time.ofArguments_overshoot`,
`CivilTime.Time.ofArrayForm_overshoot`).
-/

namespace CivilTime

/-! ### The wall time of an array form -/

namespace ArrayForm

/-- **The first six of the ten arguments are the fields of the wall time**, and are read like
them. -/
theorem normalize_toArguments (a : ArrayForm) :
    ArgumentList.normalize a.toArguments = a.wall.check := by
  have hread : ArgumentList.normalize a.toArguments =
      ArgumentList.read Argument.toInteger {} ArgumentList.argumentLimits
        ((a.wall.toList.take 6).map Argument.integer) := rfl
  rw [hread, ArgumentList.read_map]
  -- the limits are the same down to the second; behind it there is nothing left to be read on
  -- the one side, and on the other a whole second, which is within its limits
  rfl

/-- What an instant shows can be shown at the whole second, too. -/
theorem isShowable_wall_ofReading (z : Zone) (offset : Offset) (i : Instant) :
    (ofReading (.ofInstant z offset i)).wall.IsShowable :=
  WallTime.isShowable_ofSeconds (i.seconds + z.utcOffset i.seconds) i.nanoseconds

/-- Its check asks for the year alone. -/
theorem check_wall_ofReading (z : Zone) (offset : Offset) (i : Instant) :
    (ofReading (.ofInstant z offset i)).wall.check =
      if ArgumentList.minYear ≤ (z.decompose i).1.year ∧
          (z.decompose i).1.year ≤ ArgumentList.maxYear then
        .ok (ofReading (.ofInstant z offset i)).wall
      else .error (.fieldRange "year") := by
  have hwhole : (0 : Int) ≤ 0 ∧ (0 : Int) < nanosPerSecond := by decide
  exact WallTime.check_of_isShowable (isShowable_wall_ofReading z offset i) hwhole

end ArrayForm

namespace Time

variable {t : Time}

/-! ### The two ways agree -/

/-- **The list of arguments makes the same time as the array form.** -/
theorem ofArguments_toArguments (catalog : Catalog) (a : ArrayForm) :
    ofArguments catalog a.offset false a.toArguments = ofArrayForm catalog a := by
  rw [ofArguments, ArrayForm.normalize_toArguments, ofArrayForm]
  cases hcheck : a.wall.check with
  | error failure =>
    rw [ofWallTime, hcheck]
    rfl
  | ok w =>
    -- what has got past the check gets past it again
    obtain ⟨-, rfl⟩ := WallTime.check_eq_ok_iff.mp hcheck
    rfl

/-- **Why a time cannot be read**: its offset has no zone, or the zone refuses. -/
theorem reading_eq_error {failure : Failure} (h : t.reading = .error failure) :
    t.catalog.zone t.offset = .error failure ∨
      ∃ zone, t.catalog.zone t.offset = .ok zone ∧ ¬zone.IsTellable ∧ failure.IsRefusal := by
  rcases Failure.bind_eq_error_iff.mp h with h | ⟨zone, hzone, h⟩
  · exact Or.inl h
  · rcases Failure.bind_eq_error_iff.mp h with h | ⟨state, -, h⟩
    · obtain ⟨hnot, hrefusal⟩ := Zone.isRefusal_of_tell h
      exact Or.inr ⟨zone, hzone, fun hz => hnot (hz t.instant.seconds), hrefusal⟩
    · exact absurd h nofun

/-- **Why a wall time within its limits makes no time**: its offset has no zone, the zone refuses,
or the wall time has no candidates. -/
theorem ofChecked_eq_error {catalog : Catalog} {offset : Offset} {w : WallTime} {failure : Failure}
    (h : ofChecked catalog offset false w = .error failure) :
    catalog.zone offset = .error failure ∨
      ∃ zone, catalog.zone offset = .ok zone ∧
        (¬zone.IsTellable ∧ failure.IsRefusal ∨
          zone.candidates w = [] ∧ failure = .unresolved w offset) := by
  rcases Failure.bind_eq_error_iff.mp h with h | ⟨zone, hzone, h⟩
  · exact Or.inl h
  · rcases Failure.bind_eq_error_iff.mp h with h | ⟨i, -, h⟩
    · exact Or.inr ⟨zone, hzone, Zone.resolve_eq_error h⟩
    · exact absurd h nofun

/-- **The two ways back from the array form agree**, with the catalog of the time or with any other.
They make the same time, or fail alike: for the year, for a name that is not in the catalog, for
a wall time without candidates – or because a zone refuses, and then it is one that cannot be
told. -/
theorem ofArguments_eq_ofArrayForm (h : Reachable t) (catalog : Catalog) :
    (do ofArguments catalog t.offset false (← t.toArrayForm).toArguments) =
        (do ofArrayForm catalog (← t.toArrayForm)) ∧
      ∀ failure, (do ofArrayForm catalog (← t.toArrayForm)) = .error failure →
        (∃ w, t.wall = .ok w ∧
          ¬(ArgumentList.minYear ≤ w.year ∧ w.year ≤ ArgumentList.maxYear) ∧
          failure = .fieldRange "year") ∨
        (∃ key, t.offset = .named key ∧ catalog.zones.lookup key = none ∧
          failure = .zoneNotFound key Catalog.unknownZone) ∨
        (∃ w zone, t.wall = .ok w ∧ catalog.zone t.offset = .ok zone ∧
          zone.candidates { w with nanoseconds := 0 } = [] ∧
          failure = .unresolved { w with nanoseconds := 0 } t.offset) ∨
        ¬(t.catalog.IsTellable ∧ catalog.IsTellable) ∧ failure.IsRefusal := by
  obtain ⟨-, -, hproper, own, hown⟩ := h.isSound
  constructor
  · cases hform : t.toArrayForm with
    | error failure => rfl
    | ok a =>
      obtain ⟨zone, -, -, rfl⟩ := toArrayForm_eq_ok_iff.mp hform
      exact ofArguments_toArguments catalog _
  · intro failure hfailure
    rcases Failure.bind_eq_error_iff.mp hfailure with hform | ⟨a, hform, hmade⟩
    · -- the time itself cannot be read, though it has a zone
      rcases Failure.bind_eq_error_iff.mp hform with hreading | ⟨r, -, hform⟩
      · rcases reading_eq_error hreading with hzone | ⟨zone, hzone, hnot, hrefusal⟩
        · rw [hown] at hzone
          exact absurd hzone nofun
        · exact Or.inr (Or.inr (Or.inr ⟨fun hall => hnot (hall.1.zone hproper hzone), hrefusal⟩))
      · exact absurd hform nofun
    · obtain ⟨zone, hzone, htellable, rfl⟩ := toArrayForm_eq_ok_iff.mp hform
      have hwall : t.wall = .ok (zone.decompose t.instant).1 :=
        wall_eq_ok_iff.mpr ⟨zone, hzone, htellable, rfl⟩
      rw [ofArrayForm, ofWallTime, ArrayForm.check_wall_ofReading] at hmade
      split_ifs at hmade with hyear
      · rcases ofChecked_eq_error hmade with hzone | ⟨other, hother, hrefused | hnone⟩
        · exact Or.inr (Or.inl (Catalog.zone_eq_error_iff.mp hzone))
        · exact Or.inr (Or.inr (Or.inr
            ⟨fun hall => hrefused.1 (hall.2.zone hproper hother), hrefused.2⟩))
        · exact Or.inr (Or.inr (Or.inl ⟨_, other, hwall, hother, hnone⟩))
      · exact Or.inl ⟨_, hwall, hyear, (Except.error.inj hmade).symm⟩

/-- A time in a named zone, rebuilt with a catalog that does not have the name. -/
theorem ofArguments_eq_ofArrayForm_unknown :
    Reachable { instant := { seconds := 1667716200 }, offset := .named "putBack",
                catalog := { zones := [("putBack", Zone.putBack)] } } ∧
      (do
        let a ← toArrayForm { instant := { seconds := 1667716200 }, offset := .named "putBack",
                              catalog := { zones := [("putBack", Zone.putBack)] } }
        ofArguments {} (.named "putBack") false a.toArguments) =
          .error (.zoneNotFound "putBack" Catalog.unknownZone) := by
  have hmade : Reachable { instant := { seconds := 1667716200 }, offset := .named "putBack",
                           catalog := { zones := [("putBack", Zone.putBack)] } } :=
    .made { zones := [("putBack", Zone.putBack)] }
      (.stamp (.named "putBack") (.integer 1667716200) (.integer 0)) trivial (by decide)
  exact ⟨hmade, (ofArguments_eq_ofArrayForm hmade {}).1.trans (by decide)⟩

/-- The last second before the summer time that is refused in its region. -/
def beforeOvershoot : Time where
  instant := { seconds := 863999 }
  offset := .named "overshoot"
  catalog := overshootCatalog

theorem reachable_beforeOvershoot : Reachable beforeOvershoot :=
  .made overshootCatalog (.stamp (.named "overshoot") (.integer 863999) (.integer 0)) trivial
    (by decide)

/-- That time has an array form, but the zone refuses on the way back: a day later, where the search
asks too, it is in its summer time. -/
theorem exists_toArrayForm_beforeOvershoot :
    ∃ a, beforeOvershoot.toArrayForm = .ok a ∧ a.offset = beforeOvershoot.offset ∧
      ofArrayForm overshootCatalog a = .error .badValue :=
  ⟨.ofReading (.ofInstant (.region Zone.overshootTable.timeline) beforeOvershoot.offset
    beforeOvershoot.instant), by decide⟩

/-- **Either way back may end at a zone that refuses**, and then it fails neither for the year nor
for the name nor for the wall time. -/
theorem ofArguments_overshoot :
    (Zone.overshootTable.changes.map (·.1)).Pairwise (· < ·) ∧
      (∀ state ∈ Zone.overshootTable.states, IsWithinDay state.utcOffset) ∧
      Reachable beforeOvershoot ∧
      ∃ a failure, beforeOvershoot.toArrayForm = .ok a ∧
        ofArguments overshootCatalog beforeOvershoot.offset false a.toArguments = .error failure ∧
        ofArrayForm overshootCatalog a = .error failure ∧
        failure ≠ .fieldRange "year" ∧ (∀ key reason, failure ≠ .zoneNotFound key reason) ∧
        ∀ w offset, failure ≠ .unresolved w offset := by
  obtain ⟨a, hform, hoffset, hback⟩ := exists_toArrayForm_beforeOvershoot
  have hagree : ofArguments overshootCatalog beforeOvershoot.offset false a.toArguments =
      .error .badValue := by
    rw [← hoffset, ofArguments_toArguments, hback]
  exact ⟨by decide, by decide, reachable_beforeOvershoot, a, .badValue, hform, hagree, hback, nofun,
    nofun, nofun⟩

/-! ### The way back leads to the earliest instant -/

/-- **What is shown makes a time**, in a zone that can be told and whose clocks are set once a day
at most around the wall time: that of the earliest instant that shows it. -/
theorem exists_ofWallTime_eq_ok {catalog : Catalog} {offset : Offset} {zone : Zone} {w : WallTime}
    {i : Instant} (hzone : catalog.zone offset = .ok zone) (hz : zone.IsTellable)
    (hlimits : w.IsWithinLimits)
    (hapart : zone.ChangesApart secondsPerDay
      (Set.Ioc (w.toSeconds - secondsPerDay) (w.toSeconds + secondsPerDay)))
    (hshows : zone.Shows i w) :
    ∃ j, ofWallTime catalog offset false w = .ok { instant := j, offset, catalog } ∧
      j.nanoseconds = w.nanoseconds ∧
      IsLeast {s | s + zone.utcOffset s = w.toSeconds} j.seconds := by
  have hday : ∀ s, IsWithinDay (zone.utcOffset s) := fun s => (hz s).1
  obtain ⟨j, hresolve⟩ :=
    hz.exists_resolve_eq_ok (Zone.mem_candidates_of_shows hday hapart hshows) offset
  obtain ⟨hfirst, hleast⟩ := Zone.shows_and_le_of_resolve hday hapart hresolve
  obtain ⟨-, hnano, hwall⟩ := Zone.shows_iff.mp hfirst
  exact ⟨j, ofWallTime_eq_ok_iff.mpr ⟨hlimits, zone, j, hzone, hresolve, rfl⟩, hnano, hwall,
    fun s hs => hleast s hs⟩

/-- **The way back from the array form leads to the earliest instant with the same wall time**, for
a time whose zone can be told, and whose clocks are set once a day at most around that wall time. It
does not lead further on than to the second of the time itself, and leads there if the clocks
have not shown the same before. Only the year may be beyond the limits, and then it is refused. -/
theorem ofArrayForm_toArrayForm (h : Reachable t) :
    ∃ zone, t.catalog.zone t.offset = .ok zone ∧
      (zone.IsTellable → ∃ w a, t.wall = .ok w ∧ t.toArrayForm = .ok a ∧
        (¬(ArgumentList.minYear ≤ w.year ∧ w.year ≤ ArgumentList.maxYear) →
          ofArrayForm t.catalog a = .error (.fieldRange "year")) ∧
        (ArgumentList.minYear ≤ w.year ∧ w.year ≤ ArgumentList.maxYear →
          zone.ChangesApart secondsPerDay
            (Set.Ioc (w.toSeconds - secondsPerDay) (w.toSeconds + secondsPerDay)) →
          ∃ r, ofArrayForm t.catalog a = .ok r ∧
            r.instant.nanoseconds = 0 ∧ r.offset = t.offset ∧
            r.wall = .ok { w with nanoseconds := 0 } ∧
            IsLeast {s | s + zone.utcOffset s = w.toSeconds} r.instant.seconds ∧
            r.instant.seconds ≤ t.instant.seconds ∧
            (r.instant.seconds = t.instant.seconds ↔
              ∀ s < t.instant.seconds, s + zone.utcOffset s ≠ w.toSeconds))) := by
  obtain ⟨-, -, -, zone, hzone⟩ := h.isSound
  refine ⟨zone, hzone, fun hz => ?_⟩
  refine ⟨(zone.decompose t.instant).1, .ofReading (.ofInstant zone t.offset t.instant),
    wall_eq_ok_iff.mpr ⟨zone, hzone, hz _, rfl⟩,
    toArrayForm_eq_ok_iff.mpr ⟨zone, hzone, hz _, rfl⟩, fun hyear => ?_, fun hyear hapart => ?_⟩
  · rw [ofArrayForm, ofWallTime, ArrayForm.check_wall_ofReading, if_neg hyear]
    rfl
  · have hcheck := ArrayForm.check_wall_ofReading zone t.offset t.instant
    rw [if_pos hyear] at hcheck
    -- at the whole second of the time, the clocks show the wall time of its array form
    have hshows : zone.Shows { seconds := t.instant.seconds }
        { (zone.decompose t.instant).1 with nanoseconds := 0 } := rfl
    have htoSeconds := (Zone.shows_iff.mp hshows).2.2
    obtain ⟨j, hmade, hnano, hleast⟩ :=
      exists_ofWallTime_eq_ok hzone hz (WallTime.check_eq_ok_iff.mp hcheck).1 hapart hshows
    refine ⟨_, hmade, hnano, rfl, wall_of_ofWallTime hmade, hleast, hleast.2 htoSeconds, ?_⟩
    constructor
    · intro hsame s hs hagain
      have hle := hleast.2 hagain
      dsimp only at hsame
      omega
    · intro hnever
      by_contra hne
      exact hnever j.seconds (lt_of_le_of_ne (hleast.2 htoSeconds) hne) hleast.1

/-- Half past one in the night when the clocks are put back, for the second time: the way back leads
to the first one. -/
theorem ofArrayForm_toArrayForm_putBack :
    Reachable { instant := { seconds := 1667716200, nanoseconds := 5 }, offset := .localZone,
                catalog := { localZone := Zone.putBack } } ∧
      Zone.putBack.IsTellable ∧
      ∃ a r, toArrayForm { instant := { seconds := 1667716200, nanoseconds := 5 },
                           offset := .localZone, catalog := { localZone := Zone.putBack } } = .ok a ∧
        ofArrayForm { localZone := Zone.putBack } a = .ok r ∧
        r.wall = .ok { year := 2022, month := 11, day := 6, hour := 1, minute := 30 } ∧
        r.instant.seconds ≤ 1667712600 := by
  have hreachable : Reachable { instant := { seconds := 1667716200, nanoseconds := 5 },
                                offset := .localZone, catalog := { localZone := Zone.putBack } } :=
    .made { localZone := Zone.putBack }
      (.stamp .localZone (.integer 1667716200) (.integer 5)) trivial (by decide)
  obtain ⟨zone, hzone, hback⟩ := ofArrayForm_toArrayForm hreachable
  obtain rfl := Except.ok.inj hzone
  obtain ⟨w, a, hwall, hform, -, hback⟩ := hback Zone.isTellable_putBack
  have hread : wall { instant := { seconds := 1667716200, nanoseconds := 5 }, offset := .localZone,
                      catalog := { localZone := Zone.putBack } } =
      .ok { year := 2022, month := 11, day := 6, hour := 1, minute := 30, nanoseconds := 5 } := by
    decide
  obtain rfl := Except.ok.inj (hread.symm.trans hwall)
  obtain ⟨r, hmade, -, -, hwall, hleast, -, -⟩ :=
    hback (by decide) (Zone.changesApart_putBack _ _)
  have hearlier : 1667712600 + Zone.putBack.utcOffset 1667712600 = 1667698200 := by decide
  exact ⟨hreachable, Zone.isTellable_putBack, a, r, hform, hmade, hwall, hleast.2 hearlier⟩

/-- **The way back may end at a zone that refuses**, though its clocks are set once only and are
never a day away from Universal Time. -/
theorem ofArrayForm_overshoot :
    (Zone.overshootTable.changes.map (·.1)).Pairwise (· < ·) ∧
      (∀ state ∈ Zone.overshootTable.states, IsWithinDay state.utcOffset) ∧
      Reachable beforeOvershoot ∧
      beforeOvershoot.catalog.zone beforeOvershoot.offset =
        .ok (.region Zone.overshootTable.timeline) ∧
      ∃ w a, beforeOvershoot.wall = .ok w ∧ beforeOvershoot.toArrayForm = .ok a ∧
        (ArgumentList.minYear ≤ w.year ∧ w.year ≤ ArgumentList.maxYear) ∧
        (Zone.region Zone.overshootTable.timeline).ChangesApart secondsPerDay
          (Set.Ioc (w.toSeconds - secondsPerDay) (w.toSeconds + secondsPerDay)) ∧
        ofArrayForm beforeOvershoot.catalog a = .error .badValue := by
  obtain ⟨a, hform, -, hback⟩ := exists_toArrayForm_beforeOvershoot
  exact ⟨by decide, by decide, reachable_beforeOvershoot, by decide,
    { year := 1970, month := 1, day := 10, hour := 10, minute := 6, second := 39 }, a, by decide,
    hform, by decide, Zone.changesApart_overshoot _ _, hback⟩

end Time

end CivilTime
