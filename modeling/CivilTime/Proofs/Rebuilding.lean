import CivilTime.Proofs.Reachable

/-!
# Rebuilding times

A time is **rebuilt** of its array form (`CivilTime.Time.rebuilt`), and may come out as another one:
the fraction of its second is lost, and what its clocks show then may have been shown before. In
zones whose clocks are set more often than the search can see, it need not even be among the
instants that are found.

But this happens once. What is rebuilt is an instant that shows the very wall time for which it was
found (`CivilTime.Time.wall_of_ofWallTime`), so that its own array form has that wall time again, to
the second, and the same offset (`CivilTime.Time.exists_toArrayForm_of_wall`). Nothing else of an
array form is looked at (`CivilTime.Time.ofArrayForm_congr`), and the search is asked the same
question.
-/

namespace CivilTime

namespace Time

variable {catalog : Catalog} {t r : Time} {w : WallTime}

/-- **A time rebuilt** of its array form, with a catalog for its offset. -/
def rebuilt (catalog : Catalog) (t : Time) : Except Failure Time := do
  ofArrayForm catalog (← t.toArrayForm)

/-- A time rebuilt any number of times. -/
def rebuiltTimes (catalog : Catalog) : Nat → Time → Except Failure Time
  | 0, t => .ok t
  | n + 1, t => do rebuiltTimes catalog n (← t.rebuilt catalog)

/-- Array forms with the same wall time and the same offset make the same time. -/
theorem ofArrayForm_congr {a b : ArrayForm} (hwall : a.wall = b.wall)
    (hoffset : a.offset = b.offset) : ofArrayForm catalog a = ofArrayForm catalog b := by
  rw [ofArrayForm, ofArrayForm, hwall, hoffset]

/-- The array form of a time that can be read has its wall time, at the whole second. -/
theorem exists_toArrayForm_of_wall (h : t.wall = .ok w) :
    ∃ a, t.toArrayForm = .ok a ∧ a.offset = t.offset ∧ a.wall = { w with nanoseconds := 0 } := by
  obtain ⟨zone, hzone, htellable, rfl⟩ := wall_eq_ok_iff.mp h
  exact ⟨_, toArrayForm_eq_ok_iff.mpr ⟨zone, hzone, htellable, rfl⟩, rfl, rfl⟩

/-- **What an array form has made is made of its own array form again.** -/
theorem rebuilt_of_ofArrayForm {a : ArrayForm} (h : ofArrayForm catalog a = .ok r) :
    r.rebuilt catalog = .ok r := by
  have hoffset : r.offset = a.offset := by
    obtain ⟨-, zone, i, -, -, rfl⟩ := ofWallTime_eq_ok_iff.mp h
    rfl
  obtain ⟨b, hform, hb, hwall⟩ := exists_toArrayForm_of_wall (wall_of_ofWallTime h)
  have hsame : ofArrayForm catalog b = ofArrayForm catalog a :=
    ofArrayForm_congr hwall (hb.trans hoffset)
  rw [rebuilt, hform]
  exact hsame.trans h

/-- A time that comes out as itself does so any number of times. -/
theorem rebuiltTimes_of_rebuilt (h : r.rebuilt catalog = .ok r) (n : Nat) :
    rebuiltTimes catalog n r = .ok r := by
  induction n with
  | zero => rfl
  | succ n ih =>
    rw [rebuiltTimes, h]
    exact ih

/-- **Rebuilding a time again changes nothing**, in whatever zones and however often their clocks
are set. If a time can be rebuilt, what comes out is rebuilt as it is, and so it does any number of
times. -/
theorem rebuilt_rebuilt (h : t.rebuilt catalog = .ok r) :
    r.rebuilt catalog = .ok r ∧ ∀ n, rebuiltTimes catalog (n + 1) t = .ok r := by
  obtain ⟨a, -, hmade⟩ := Failure.bind_eq_ok_iff.mp h
  have hagain := rebuilt_of_ofArrayForm hmade
  refine ⟨hagain, fun n => ?_⟩
  rw [rebuiltTimes, h]
  exact rebuiltTimes_of_rebuilt hagain n

/-- A region whose clocks are put back by an hour, and put on again an hour and a half later. -/
def retreatTable : ZoneTable where
  states := [{ utcOffset := 10800, abbreviation := "A", isDst := false },
    { utcOffset := 7200, abbreviation := "B", isDst := false }]
  changes := [(0, 1), (5400, 0)]

/-- A catalog with that region as the local zone. -/
def retreatCatalog : Catalog where
  localZone := .region retreatTable.timeline

/-- Half past two, shown in that time for the second time of two. The search does not find the
instant itself, and the time is rebuilt as the first of the two; there it stays. -/
theorem rebuilt_rebuilt_retreat :
    Reachable { instant := { seconds := 1800 }, offset := .localZone, catalog := retreatCatalog } ∧
      retreatCatalog.localZone.search { year := 1970, hour := 2, minute := 30 } =
        .ok [{ seconds := -1800 }] ∧
      rebuiltTimes retreatCatalog 4
        { instant := { seconds := 1800 }, offset := .localZone, catalog := retreatCatalog } =
          .ok { instant := { seconds := -1800 }, offset := .localZone,
                catalog := retreatCatalog } := by
  have hmade : Reachable { instant := { seconds := 1800 }, offset := .localZone,
                           catalog := retreatCatalog } :=
    .made retreatCatalog (.stamp .localZone (.integer 1800) (.integer 0)) trivial (by decide)
  have hrebuilt : rebuilt retreatCatalog
      { instant := { seconds := 1800 }, offset := .localZone, catalog := retreatCatalog } =
        .ok { instant := { seconds := -1800 }, offset := .localZone,
              catalog := retreatCatalog } := by
    decide
  exact ⟨hmade, by decide, (rebuilt_rebuilt hrebuilt).2 3⟩

end Time

end CivilTime
