import CivilTime.Catalog
import CivilTime.Proofs.Candidates

/-!
# Zones that can be told

A zone refuses to tell a state that is a day or more away from Universal Time, or from its own
standard time. A zone **can be told** if it never has to (`CivilTime.Zone.IsTellable`), and a
catalog if all of its zones can (`CivilTime.Catalog.IsTellable`). Then it **answers** all that is
asked on the way to the instants of a wall time (`CivilTime.Zone.Answers`), and the search finds
them (`CivilTime.Zone.IsTellable.search_eq`).

Where a zone is asked for what it does not tell, it **refuses** the first of it
(`CivilTime.Zone.Refuses`), and the search ends there (`CivilTime.Zone.search_eq_error_iff`). The
refusal is one of two failures, and the zone is one that cannot be told
(`CivilTime.Zone.Refuses.not_isTellable`).

A fixed offset is checked when it is made, so its zone can be told in any catalog
(`CivilTime.Offset.IsProper`, `CivilTime.Catalog.IsTellable.zone`).
-/

namespace CivilTime

/-- A failure by which a zone **refuses** to tell its state. -/
def Failure.IsRefusal (failure : Failure) : Prop :=
  failure = .overflow ∨ failure = .badValue

namespace Zone

variable {z : Zone} {failure : Failure}

/-- **A zone that can be told**, whichever second it is asked about. -/
def IsTellable (z : Zone) : Prop :=
  ∀ s, (z.state s).IsTellable

theorem isWithinDay_zero : IsWithinDay 0 := by decide

theorem isTellable_utc : utc.IsTellable :=
  fun _ => ⟨isWithinDay_zero, isWithinDay_zero⟩

theorem isTellable_fixed {seconds : Int} (h : IsWithinDay seconds) : (fixed seconds).IsTellable :=
  fun _ => ⟨h, isWithinDay_zero⟩

/-! ### Answers -/

/-- A zone **answers** all that is asked on the way to the instants of a wall time. For one that is
never shown nothing is asked. -/
def Answers (z : Zone) (w : WallTime) : Prop :=
  w.IsShowable → ∀ s ∈ z.askedSeconds w.toSeconds, (z.state s).IsTellable

/-- A zone that can be told answers whatever it is asked. -/
theorem IsTellable.answers (hz : z.IsTellable) (w : WallTime) : z.Answers w :=
  fun _ s _ => hz s

/-- Where the zone answers, the search finds the candidates. -/
theorem Answers.search_eq {w : WallTime} (h : z.Answers w) : z.search w = .ok (z.candidates w) :=
  search_eq_ok_iff.mpr ⟨h, rfl⟩

/-- **In a zone that can be told the search always answers**, with the candidates. -/
theorem IsTellable.search_eq (hz : z.IsTellable) (w : WallTime) :
    z.search w = .ok (z.candidates w) :=
  (hz.answers w).search_eq

/-! ### Refusals -/

/-- **What is not told** overflows where clocks would leave the calendar, and is a bad value
elsewhere. -/
theorem tell_eq_error_iff {s : Int} :
    z.tell s = .error failure ↔
      ¬(z.state s).IsTellable ∧ failure = if z.IsOnCalendar s then .badValue else .overflow := by
  rw [tell]
  by_cases hcalendar : z.IsOnCalendar s
  · rw [if_neg (not_not.mpr hcalendar), if_pos hcalendar]
    exact Failure.ite_eq_error_iff
  · -- off the calendar there is nothing that could be told
    have hnot : ¬(z.state s).IsTellable := mt isOnCalendar_of_isTellable hcalendar
    rw [if_pos hcalendar, if_neg hcalendar]
    exact ⟨fun h => ⟨hnot, (Except.error.inj h).symm⟩, fun h => congrArg Except.error h.2.symm⟩

/-- What is not told is refused. -/
theorem isRefusal_of_tell {s : Int} (h : z.tell s = .error failure) :
    ¬(z.state s).IsTellable ∧ failure.IsRefusal := by
  obtain ⟨hs, rfl⟩ := tell_eq_error_iff.mp h
  refine ⟨hs, ?_⟩
  split_ifs
  · exact Or.inr rfl
  · exact Or.inl rfl

/-- **Of several seconds** the first that is not told is refused. -/
theorem tellAll_eq_error_iff {seconds : List Int} :
    z.tellAll seconds = .error failure ↔
      ∃ before s after, seconds = before ++ s :: after ∧
        (∀ earlier ∈ before, (z.state earlier).IsTellable) ∧ z.tell s = .error failure := by
  induction seconds with
  | nil => exact iff_of_false (by rintro ⟨⟩) Failure.not_exists_first_nil
  | cons first rest ih =>
    rw [tellAll] at ih
    rw [tellAll, List.mapM_cons, Failure.bind_eq_error_iff, Failure.exists_first_cons_iff]
    refine or_congr_right ?_
    simp only [Failure.bind_eq_error_iff, ih, tell_eq_ok_iff]
    constructor
    · rintro ⟨state, ⟨hfirst, -⟩, hrest | ⟨states, -, h⟩⟩
      · exact ⟨hfirst, hrest⟩
      · cases h
    · rintro ⟨hfirst, hrest⟩
      exact ⟨_, ⟨hfirst, rfl⟩, Or.inl hrest⟩

/-- Of what is asked on the way to the instants of a wall time, a zone **refuses** the first that it
does not tell. -/
def Refuses (z : Zone) (w : WallTime) (failure : Failure) : Prop :=
  w.IsShowable ∧ ∃ before s after, z.askedSeconds w.toSeconds = before ++ s :: after ∧
    (∀ earlier ∈ before, (z.state earlier).IsTellable) ∧ ¬(z.state s).IsTellable ∧
      failure = if z.IsOnCalendar s then .badValue else .overflow

variable {w : WallTime}

/-- **The search fails where the zone refuses.** -/
theorem search_eq_error_iff : z.search w = .error failure ↔ z.Refuses w failure := by
  rw [search, Refuses]
  split_ifs with hw
  · rw [Failure.bind_eq_error_iff, tellAll_eq_error_iff]
    simp only [tell_eq_error_iff]
    refine ⟨?_, fun h => Or.inl h.2⟩
    rintro (h | ⟨states, -, h⟩)
    · exact ⟨hw, h⟩
    · cases h
  · exact iff_of_false (by rintro ⟨⟩) fun h => hw h.1

/-- A refusal has one of two reasons, and it is that of a zone that cannot be told. -/
theorem Refuses.not_isTellable (h : z.Refuses w failure) : ¬z.IsTellable ∧ failure.IsRefusal := by
  obtain ⟨-, before, s, after, -, -, hs⟩ := h
  obtain ⟨hnot, hrefusal⟩ := isRefusal_of_tell (tell_eq_error_iff.mpr hs)
  exact ⟨fun hz => hnot (hz s), hrefusal⟩

/-- **Why a wall time is not resolved**: its zone refuses, or none of its instants is found. -/
theorem resolve_eq_error {offset : Offset}
    (h : z.resolve offset false w = .error failure) :
    ¬z.IsTellable ∧ failure.IsRefusal ∨
      z.candidates w = [] ∧ failure = .unresolved w offset := by
  rw [resolve] at h
  rcases Failure.bind_eq_error_iff.mp h with h | ⟨found, hsearch, h⟩
  · exact Or.inl (search_eq_error_iff.mp h).not_isTellable
  · obtain ⟨-, rfl⟩ := search_eq_ok_iff.mp hsearch
    right
    cases hfound : z.candidates w with
    | nil =>
      rw [hfound] at h
      exact ⟨rfl, (Except.error.inj h).symm⟩
    | cons first rest =>
      rw [hfound] at h
      cases h

/-- **A zone that can be told resolves every wall time that has a candidate.** -/
theorem IsTellable.exists_resolve_eq_ok (hz : z.IsTellable) {i : Instant}
    (hi : i ∈ z.candidates w) (offset : Offset) : ∃ j, z.resolve offset false w = .ok j := by
  cases hresolve : z.resolve offset false w with
  | ok j => exact ⟨j, rfl⟩
  | error failure =>
    rcases resolve_eq_error hresolve with ⟨hnot, -⟩ | ⟨hnone, -⟩
    · exact absurd hz hnot
    · rw [hnone] at hi
      exact absurd hi List.not_mem_nil

end Zone

/-! ### Offsets and catalogs -/

/-- The offsets that can be made: a fixed one is **less than a day**. -/
def Offset.IsProper : Offset → Prop
  | .fixed seconds => IsWithinDay seconds
  | .utc | .localZone | .named _ => True

namespace Catalog

variable {c : Catalog} {offset : Offset}

/-- **A catalog that can be told**, in all of its zones. -/
def IsTellable (c : Catalog) : Prop :=
  c.localZone.IsTellable ∧ ∀ entry ∈ c.zones, entry.2.IsTellable

/-- **The zone of an offset can be told** if the catalog can. -/
theorem IsTellable.zone (hc : c.IsTellable) (ho : offset.IsProper) {zone : Zone}
    (hzone : c.zone offset = .ok zone) : zone.IsTellable := by
  cases offset with
  | utc =>
    obtain rfl := Except.ok.inj hzone
    exact Zone.isTellable_utc
  | fixed seconds =>
    obtain rfl := Except.ok.inj hzone
    exact Zone.isTellable_fixed ho
  | localZone =>
    obtain rfl := Except.ok.inj hzone
    exact hc.1
  | named key =>
    rw [Catalog.zone, named] at hzone
    split at hzone
    · next found hfound =>
      obtain rfl := Except.ok.inj hzone
      obtain ⟨before, after, hzones, -⟩ := List.lookup_eq_some_iff.mp hfound
      exact hc.2 (key, found) (by rw [hzones]; simp)
    · exact absurd hzone nofun

/-- **Only a name has no zone**, and only where the catalog does not have the name. -/
theorem zone_eq_error_iff {failure : Failure} :
    c.zone offset = .error failure ↔ ∃ key, offset = .named key ∧ c.zones.lookup key = none ∧
      failure = .zoneNotFound key unknownZone := by
  constructor
  · intro h
    cases offset with
    | utc | fixed | localZone => exact absurd h nofun
    | named key =>
      rw [Catalog.zone, named] at h
      split at h
      · exact absurd h nofun
      · next hnone => exact ⟨key, rfl, hnone, (Except.error.inj h).symm⟩
  · rintro ⟨key, rfl, hnone, rfl⟩
    rw [Catalog.zone, named, hnone]

end Catalog

end CivilTime
