import CivilTime.Proofs.Completeness
import CivilTime.Proofs.Reachable

/-!
# Clocks that are never set

Universal Time and the fixed offsets have zones whose clocks **keep their distance** from Universal
Time (`CivilTime.Zone.KeepsDistance`). They are never set, so that there is nothing to be missed
in the search for instants and nothing to be found twice: instants and the wall times that can be
shown are the same but for the distance, over all years.

* `CivilTime.Zone.KeepsDistance.candidates_eq`: a wall time has one candidate;
* `CivilTime.Zone.KeepsDistance.candidates_decompose`: an instant is the candidate of its own wall
  time;
* `CivilTime.Time.ofWallTime_of_distance`: a time is made again of its wall time, unless the year
  of that is beyond the limits.
-/

namespace CivilTime

namespace Zone

variable {z : Zone} {distance : Int} {w : WallTime}

/-- Clocks that **keep their distance**: they are at all times as far ahead of Universal Time. -/
def KeepsDistance (z : Zone) (distance : Int) : Prop :=
  ∀ s, z.utcOffset s = distance

theorem keepsDistance_utc : utc.KeepsDistance 0 :=
  fun _ => rfl

theorem keepsDistance_fixed (seconds : Int) : (fixed seconds).KeepsDistance seconds :=
  fun _ => rfl

/-- A distance of less than a day is less than a day at all times. -/
theorem KeepsDistance.isWithinDay (h : z.KeepsDistance distance) (hday : IsWithinDay distance)
    (s : Int) : IsWithinDay (z.utcOffset s) := by
  rwa [h s]

/-- Such clocks are never set. -/
theorem KeepsDistance.changes_eq (h : z.KeepsDistance distance) : z.changes = ∅ := by
  refine Set.eq_empty_iff_forall_notMem.mpr fun t ht => ?_
  rw [changes, Set.mem_ofPred_eq, h, h] at ht
  exact ht rfl

theorem KeepsDistance.changesApart (h : z.KeepsDistance distance) (gap : Int) (during : Set Int) :
    z.ChangesApart gap during := by
  rw [ChangesApart, h.changes_eq, Set.empty_inter]
  exact Set.pairwise_empty _

/-- **A wall time has one candidate**, a distance before its wall seconds. -/
theorem KeepsDistance.candidates_eq (h : z.KeepsDistance distance) (hday : IsWithinDay distance)
    (hw : w.IsShowable) :
    z.candidates w = [{ seconds := w.toSeconds - distance, nanoseconds := w.nanoseconds }] := by
  have hz := h.isWithinDay hday
  -- both lists are strictly in order, so it is enough that they have the same members
  refine (pairwise_candidates z w).eq_of_mem_iff (List.pairwise_singleton _ _) fun i => ?_
  rw [mem_candidates_iff_shows hz (h.changesApart _ _), shows_iff, h, List.mem_singleton,
    Instant.eq_iff]
  dsimp only
  constructor
  · rintro ⟨-, hnano, hseconds⟩
    exact ⟨by omega, hnano⟩
  · rintro ⟨hseconds, hnano⟩
    exact ⟨hw, hnano, by omega⟩

/-- **An instant is the one candidate of its wall time.** -/
theorem KeepsDistance.candidates_decompose (h : z.KeepsDistance distance)
    (hday : IsWithinDay distance) (i : Instant) : z.candidates (z.decompose i).1 = [i] := by
  have hshows : z.Shows i (z.decompose i).1 := rfl
  obtain ⟨hw, hnano, hseconds⟩ := shows_iff.mp hshows
  rw [h] at hseconds
  rw [h.candidates_eq hday hw, ← hseconds, ← hnano, add_sub_cancel_right]

/-- **The candidate of a wall time shows it.** -/
theorem KeepsDistance.decompose_eq (h : z.KeepsDistance distance) (hw : w.IsShowable) :
    (z.decompose { seconds := w.toSeconds - distance, nanoseconds := w.nanoseconds }).1 = w := by
  refine shows_iff.mpr ⟨hw, rfl, ?_⟩
  rw [h]
  exact sub_add_cancel _ _

end Zone

/-- **The distance that an offset names**, if it names one and not a zone that may be any. -/
def Offset.distance? : Offset → Option Int
  | .utc => some 0
  | .fixed seconds => some seconds
  | .localZone | .named _ => none

/-- An offset that names a distance has a zone that keeps it, whatever the catalog is. -/
theorem Offset.exists_zone_of_distance {offset : Offset} {distance : Int}
    (h : offset.distance? = some distance) (hday : IsWithinDay distance) :
    ∃ zone : Zone, (∀ catalog : Catalog, catalog.zone offset = .ok zone) ∧
      zone.KeepsDistance distance ∧ zone.IsTellable := by
  cases offset with
  | utc =>
    obtain rfl := Option.some.inj h
    exact ⟨.utc, fun _ => rfl, Zone.keepsDistance_utc, Zone.isTellable_utc⟩
  | fixed seconds =>
    obtain rfl := Option.some.inj h
    exact ⟨.fixed seconds, fun _ => rfl, Zone.keepsDistance_fixed seconds,
      Zone.isTellable_fixed hday⟩
  | localZone | named => exact absurd h nofun

/-- The zone of an offset that names a distance keeps it. -/
theorem Offset.keepsDistance_of_zone {c : Catalog} {offset : Offset} {zone : Zone} {distance : Int}
    (hzone : c.zone offset = .ok zone) (h : offset.distance? = some distance) :
    zone.KeepsDistance distance := by
  cases offset with
  | utc =>
    obtain rfl := Except.ok.inj hzone
    obtain rfl := Option.some.inj h
    exact Zone.keepsDistance_utc
  | fixed seconds =>
    obtain rfl := Except.ok.inj hzone
    obtain rfl := Option.some.inj h
    exact Zone.keepsDistance_fixed seconds
  | localZone | named => exact absurd h nofun

namespace Time

/-- **Instants and wall times at a fixed distance**: each instant is the only one with its wall
time, and each wall time that can be shown has one instant. So a time in such an offset is made
again of its wall time, with any catalog, unless its year is beyond the limits. -/
theorem ofWallTime_of_distance {offset : Offset} {distance : Int}
    (h : offset.distance? = some distance) (hday : IsWithinDay distance) :
    (∃ zone : Zone, (∀ catalog : Catalog, catalog.zone offset = .ok zone) ∧
      (∀ i, zone.tellWall i = .ok (zone.decompose i) ∧
        zone.search (zone.decompose i).1 = .ok [i]) ∧
      ∀ w : WallTime, w.IsShowable →
        ∃ i : Instant, i.seconds = w.toSeconds - distance ∧ i.nanoseconds = w.nanoseconds ∧
          zone.search w = .ok [i] ∧ (zone.decompose i).1 = w) ∧
      ∀ t, Reachable t → t.offset = offset → ∃ w, t.wall = .ok w ∧ ∀ catalog strict,
        ofWallTime catalog t.offset strict w =
          if ArgumentList.minYear ≤ w.year ∧ w.year ≤ ArgumentList.maxYear then .ok { t with catalog }
          else .error (.fieldRange "year") := by
  obtain ⟨zone, hzone, hkeeps, htell⟩ := Offset.exists_zone_of_distance h hday
  have hsearch : ∀ i, zone.search (zone.decompose i).1 = .ok [i] := by
    intro i
    rw [htell.search_eq, hkeeps.candidates_decompose hday]
  refine ⟨⟨zone, hzone, fun i => ⟨?_, hsearch i⟩, fun w hw => ?_⟩, fun t ht hoffset => ?_⟩
  · exact Zone.tellWall_eq_ok_iff.mpr ⟨htell i.seconds, rfl⟩
  · refine ⟨{ seconds := w.toSeconds - distance, nanoseconds := w.nanoseconds }, rfl, rfl, ?_,
      hkeeps.decompose_eq hw⟩
    rw [htell.search_eq, hkeeps.candidates_eq hday hw]
  · subst hoffset
    obtain ⟨w, hw⟩ : ∃ w, zone.Shows t.instant w := ⟨_, rfl⟩
    have hwall := wall_eq_ok_iff.mpr ⟨zone, hzone t.catalog, htell t.instant.seconds, hw⟩
    refine ⟨w, hwall, fun catalog strict => ?_⟩
    obtain ⟨hshowable, hnano, -⟩ := Zone.shows_iff.mp hw
    have hcheck := WallTime.check_of_isShowable hshowable (hnano ▸ ht.isSound.nanoseconds)
    -- its instant is all that the search finds
    have hresolve : zone.resolve t.offset strict w = .ok t.instant := by
      rw [Zone.resolve, ← hw, hsearch]
      rfl
    split_ifs at hcheck ⊢ with hyear
    · exact ofWallTime_eq_ok_iff.mpr ⟨(WallTime.check_eq_ok_iff.mp hcheck).1, zone, t.instant,
        hzone catalog, hresolve, rfl⟩
    · rw [ofWallTime, hcheck]
      rfl

/-- In India, half past five in the morning of the first of January 1970 is the start of that year;
and the last of all times has a year beyond the limits, so that it cannot be made of its wall
time. -/
theorem ofWallTime_of_distance_india :
    (Offset.fixed 19800).distance? = some 19800 ∧ IsWithinDay 19800 ∧
      (Zone.fixed 19800).search { year := 1970, hour := 5, minute := 30, nanoseconds := 7 } =
        .ok [{ seconds := 0, nanoseconds := 7 }] ∧
      Reachable { instant := { seconds := maxSeconds, nanoseconds := 999999999 }
                  offset := .fixed 19800 } ∧
      ofWallTime {} (.fixed 19800) false
        { year := 292277026596, month := 12, day := 4, hour := 21, second := 7
          nanoseconds := 999999999 } = .error (.fieldRange "year") := by
  have hdistance : (Offset.fixed 19800).distance? = some 19800 := rfl
  have hday : IsWithinDay 19800 := by decide
  obtain ⟨⟨zone, hzone, hinstants, -⟩, htimes⟩ := ofWallTime_of_distance hdistance hday
  obtain rfl : Zone.fixed 19800 = zone := Except.ok.inj (hzone {})
  have hstart : ((Zone.fixed 19800).decompose { seconds := 0, nanoseconds := 7 }).1 =
      { year := 1970, hour := 5, minute := 30, nanoseconds := 7 } := by decide
  have hlast : Reachable { instant := { seconds := maxSeconds, nanoseconds := 999999999 }
                           offset := .fixed 19800 } :=
    .made {} (.stamp (.fixed 19800) (.integer maxSeconds) (.integer 999999999)) hday (by decide)
  obtain ⟨w, hwall, hmade⟩ := htimes _ hlast rfl
  obtain ⟨zone, hzone, -, hshows⟩ := wall_eq_ok_iff.mp hwall
  obtain rfl : Zone.fixed 19800 = zone := Except.ok.inj hzone
  obtain rfl : w = { year := 292277026596, month := 12, day := 4, hour := 21, second := 7
                     nanoseconds := 999999999 } := by
    rw [← hshows]
    decide
  exact ⟨hdistance, hday, hstart ▸ (hinstants _).2, hlast, hmade {} false⟩

end Time

end CivilTime
