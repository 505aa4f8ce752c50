import CivilTime.Proofs.Completeness
import CivilTime.Proofs.Limits
import CivilTime.Time

/-!
# Times and their wall times

A time that is made of a wall time has the instant to which the zone of its offset resolves the wall
time (`CivilTime.Time.ofWallTime_eq_ok_iff`), and its fields are read in the very same zone
(`CivilTime.Time.reading_eq_ok_iff`), those of its wall time and of its array form alike
(`CivilTime.Time.wall_eq_ok_iff`, `CivilTime.Time.toArrayForm_eq_ok_iff`). Since nothing is ever
found that does not show the wall time, what is read is what was given: no field rolls over into the
next, whatever the clocks of the zone do (`CivilTime.Time.candidates_sound`).
-/

namespace CivilTime

namespace Time

variable {catalog : Catalog} {offset : Offset} {strict : Bool} {w : WallTime} {t : Time}

/-- **The time of a wall time**: its offset has a zone, and its instant is what the zone
resolves the wall time to. -/
theorem ofWallTime_eq_ok_iff :
    ofWallTime catalog offset strict w = .ok t ↔
      w.IsWithinLimits ∧ ∃ zone i, catalog.zone offset = .ok zone ∧
        zone.resolve offset strict w = .ok i ∧ t = { instant := i, offset, catalog } := by
  rw [ofWallTime, Failure.bind_eq_ok_iff]
  constructor
  · rintro ⟨v, hcheck, hmade⟩
    obtain ⟨hlimits, rfl⟩ := WallTime.check_eq_ok_iff.mp hcheck
    rw [ofChecked, Failure.bind_eq_ok_iff] at hmade
    obtain ⟨zone, hzone, hmade⟩ := hmade
    obtain ⟨i, hresolve, hmade⟩ := Failure.bind_eq_ok_iff.mp hmade
    exact ⟨hlimits, zone, i, hzone, hresolve, (Except.ok.inj hmade).symm⟩
  · rintro ⟨hlimits, zone, i, hzone, hresolve, rfl⟩
    refine ⟨w, WallTime.check_eq_ok_iff.mpr ⟨hlimits, rfl⟩, ?_⟩
    rw [ofChecked, Failure.bind_eq_ok_iff]
    exact ⟨zone, hzone, Failure.bind_eq_ok_iff.mpr ⟨i, hresolve, rfl⟩⟩

/-- **The reading of a time** is that of its instant in the zone of its offset, if the zone tells
it. -/
theorem reading_eq_ok_iff {r : Reading} :
    t.reading = .ok r ↔ ∃ zone, t.catalog.zone t.offset = .ok zone ∧
      (zone.state t.instant.seconds).IsTellable ∧ r = .ofInstant zone t.offset t.instant := by
  rw [reading, Failure.bind_eq_ok_iff]
  refine exists_congr fun zone => and_congr_right fun _ => ?_
  rw [Failure.bind_eq_ok_iff]
  constructor
  · rintro ⟨state, htell, hreading⟩
    exact ⟨(Zone.tell_eq_ok_iff.mp htell).1, (Except.ok.inj hreading).symm⟩
  · rintro ⟨htellable, rfl⟩
    exact ⟨_, Zone.tell_eq_ok_iff.mpr ⟨htellable, rfl⟩, rfl⟩

/-- **The wall time of a time** is the one that its instant has in the zone of its offset, if
the zone tells it. -/
theorem wall_eq_ok_iff :
    t.wall = .ok w ↔ ∃ zone, t.catalog.zone t.offset = .ok zone ∧
      (zone.state t.instant.seconds).IsTellable ∧ zone.Shows t.instant w := by
  rw [wall, Failure.bind_eq_ok_iff]
  constructor
  · rintro ⟨r, hreading, hwall⟩
    obtain ⟨zone, hzone, htellable, rfl⟩ := reading_eq_ok_iff.mp hreading
    exact ⟨zone, hzone, htellable, Except.ok.inj hwall⟩
  · rintro ⟨zone, hzone, htellable, rfl⟩
    exact ⟨_, reading_eq_ok_iff.mpr ⟨zone, hzone, htellable, rfl⟩, rfl⟩

/-- **The array form of a time** is that of its reading. -/
theorem toArrayForm_eq_ok_iff {a : ArrayForm} :
    t.toArrayForm = .ok a ↔ ∃ zone, t.catalog.zone t.offset = .ok zone ∧
      (zone.state t.instant.seconds).IsTellable ∧
      a = .ofReading (.ofInstant zone t.offset t.instant) := by
  rw [toArrayForm, Failure.bind_eq_ok_iff]
  constructor
  · rintro ⟨r, hreading, ha⟩
    obtain ⟨zone, hzone, htellable, rfl⟩ := reading_eq_ok_iff.mp hreading
    exact ⟨zone, hzone, htellable, (Except.ok.inj ha).symm⟩
  · rintro ⟨zone, hzone, htellable, rfl⟩
    exact ⟨_, reading_eq_ok_iff.mpr ⟨zone, hzone, htellable, rfl⟩, rfl⟩

/-- A time that was made of a wall time shows it. -/
theorem wall_of_ofWallTime (h : ofWallTime catalog offset strict w = .ok t) :
    t.wall = .ok w := by
  obtain ⟨-, zone, i, hzone, hresolve, rfl⟩ := ofWallTime_eq_ok_iff.mp h
  obtain ⟨found, hsearch, hi, -⟩ := Zone.resolve_eq_ok_iff.mp hresolve
  obtain ⟨htellable, hshows⟩ := Zone.tellWall_eq_ok_iff.mp (Zone.tellWall_of_mem_search hsearch hi)
  exact wall_eq_ok_iff.mpr ⟨zone, hzone, htellable, congrArg Prod.fst hshows.symm⟩

/-- **Nothing is found that does not show the wall time**, in any zone. The candidates are
strictly in order, there are none for a wall time that cannot be shown, and each of them has
its nanoseconds and shows it in all its fields. They are what the search finds, if all that
it asks for can be told, and then they can be read. So a time that is made of a wall time
reads as that wall time. -/
theorem candidates_sound (w : WallTime) :
    (∀ z : Zone,
      (z.candidates w).Pairwise (· < ·) ∧
        (¬w.IsShowable → z.candidates w = []) ∧
        (∀ i ∈ z.candidates w, i.nanoseconds = w.nanoseconds ∧ (z.decompose i).1 = w) ∧
        (∀ found, z.search w = .ok found ↔
          (w.IsShowable → ∀ s ∈ z.askedSeconds w.toSeconds, (z.state s).IsTellable) ∧
            found = z.candidates w) ∧
        ∀ found, z.search w = .ok found →
          ∀ i ∈ found, z.tellWall i = .ok (w, z.state i.seconds)) ∧
      ∀ catalog offset strict t, ofWallTime catalog offset strict w = .ok t → t.wall = .ok w := by
  refine ⟨fun z => ⟨Zone.pairwise_candidates z w, fun hw => if_neg hw, fun i hi => ?_,
    fun found => Zone.search_eq_ok_iff, fun found hfound i => Zone.tellWall_of_mem_search hfound⟩,
    fun catalog offset strict t => wall_of_ofWallTime⟩
  have hshows := (Zone.mem_candidates_iff.mp hi).1
  exact ⟨(Zone.shows_iff.mp hshows).2.1, hshows⟩

/-- The hour that comes twice, on the first of its two occasions. -/
theorem wall_putBack :
    ofWallTime { localZone := Zone.putBack } .localZone false
        { year := 2022, month := 11, day := 6, hour := 1, minute := 30, nanoseconds := 5 } =
      .ok { instant := { seconds := 1667712600, nanoseconds := 5 }, offset := .localZone,
            catalog := { localZone := Zone.putBack } } ∧
      wall { instant := { seconds := 1667712600, nanoseconds := 5 }, offset := .localZone,
             catalog := { localZone := Zone.putBack } } =
        .ok { year := 2022, month := 11, day := 6, hour := 1, minute := 30, nanoseconds := 5 } := by
  have h : ofWallTime { localZone := Zone.putBack } .localZone false
      { year := 2022, month := 11, day := 6, hour := 1, minute := 30, nanoseconds := 5 } =
        .ok { instant := { seconds := 1667712600, nanoseconds := 5 }, offset := .localZone,
              catalog := { localZone := Zone.putBack } } := by decide
  exact ⟨h, (candidates_sound _).2 _ _ _ _ h⟩

end Time

end CivilTime
