import CivilTime.Proofs.Tellable
import CivilTime.Proofs.Time

/-!
# The times that can be made

A time comes from somewhere – a time stamp, a clock, a wall time in one of its forms
(`CivilTime.Time.Origin`) – and may then be moved along and shown elsewhere, any number of times
(`CivilTime.Time.Change`). The times that can be made in this way are the **reachable** ones
(`CivilTime.Time.Reachable`).

All of them are **sound** (`CivilTime.Time.IsSound`): their seconds are integers of 64 bits, their
nanoseconds less than a second, and their offset has a zone. A time stamp and a move are checked
for the first of these, but a wall time is not. It has no need of it, because its year is an
integer of 32 bits, and even with a day for the offset such a year is far inside
(`CivilTime.WallTime.toSeconds_bounds_of_year`).

| | theorem |
|---|---|
| what is made is sound | `CivilTime.Time.Origin.isSound_of_make` |
| what is sound stays so | `CivilTime.Time.Change.isSound_of_apply` |
| so every reachable time is sound, and can be read | `CivilTime.Time.reading_of_reachable` |

To be read, a sound time asks its zone for one state, and that is told if the zones of its catalog
can be. An offset of less than a day does not make them so by itself: a summer time that is more
than a day ahead of standard time is refused, however small its offset
(`CivilTime.Time.reading_overshoot`).
-/

namespace CivilTime

/-- **A year of 32 bits leaves room in 64 bits**, for its wall seconds and a day beyond. -/
theorem WallTime.toSeconds_bounds_of_year {w : WallTime} (hw : w.IsShowable)
    (hyear : ArgumentList.minYear ≤ w.year ∧ w.year ≤ ArgumentList.maxYear) :
    Time.minSeconds + secondsPerDay ≤ w.toSeconds ∧
      w.toSeconds ≤ Time.maxSeconds - secondsPerDay := by
  obtain ⟨⟨hhour, hminute, hsecond⟩, hdate⟩ := hw
  -- the date lies between the last day before these years and the first day after them
  have hfirst : (⟨ArgumentList.minYear - 1, 12, 31⟩ : Date).toDays < w.date.toDays :=
    Date.toDays_lt_toDays (by decide) hdate (Or.inl (by dsimp only [date]; omega))
  have hlast : w.date.toDays < (⟨ArgumentList.maxYear + 1, 1, 1⟩ : Date).toDays :=
    Date.toDays_lt_toDays hdate (by decide) (Or.inl (by dsimp only [date]; omega))
  have hlow : (⟨ArgumentList.minYear - 1, 12, 31⟩ : Date).toDays = -784353015834 := by decide
  have hhigh : (⟨ArgumentList.maxYear + 1, 1, 1⟩ : Date).toDays = 784351576777 := by decide
  rw [hlow] at hfirst
  rw [hhigh] at hlast
  rw [toSeconds, Time.minSeconds, Time.maxSeconds, secondsPerDay]
  omega

namespace Time

/-! ### Where times come from, and what becomes of them -/

/-- **The ways to make a time.** The fields of a wall time are integers; all other arguments may be
of any kind. -/
inductive Origin
  /-- A time stamp. -/
  | stamp (offset : Offset) (seconds nanoseconds : Argument)
  /-- What a clock shows, in the local zone. -/
  | present (clock : Instant)
  /-- The fields of a wall time, one by one. -/
  | fields (offset : Offset) (strict : Bool) (w : WallTime)
  /-- A wall time. -/
  | wall (offset : Offset) (strict : Bool) (w : WallTime)
  /-- An argument list. -/
  | arguments (offset : Offset) (strict : Bool) (args : List Argument)
  /-- An array form, of whatever time or of none. -/
  | array (a : ArrayForm)

namespace Origin

/-- Making a time, with a catalog for its offset. -/
def make (catalog : Catalog) : Origin → Except Failure Time
  | stamp offset seconds nanoseconds => ofStamp catalog offset seconds nanoseconds
  | present clock => now catalog (.ok clock)
  | fields offset strict w => ofFields catalog offset strict (w.toList.map Argument.integer)
  | wall offset strict w => ofWallTime catalog offset strict w
  | arguments offset strict args => ofArguments catalog offset strict args
  | array a => ofArrayForm catalog a

/-- The offset in which the time is to be shown. -/
def offset : Origin → Offset
  | stamp offset _ _ | fields offset _ _ | wall offset _ _ | arguments offset _ _ => offset
  | present _ => .localZone
  | array a => a.offset

end Origin

/-- **The ways to make another time of a time.** -/
inductive Change
  /-- Moving it along; the argument may stand on either side. -/
  | add (a : Argument)
  /-- Moving it back. -/
  | sub (a : Argument)
  /-- Showing it in another offset. -/
  | withOffset (offset : Offset)
  | toUtc
  | toLocal

namespace Change

/-- Making the other time. -/
def apply (t : Time) : Change → Except Failure Time
  | add a => t.add a
  | sub a => t.sub a
  | withOffset offset => t.withOffset offset
  | toUtc => t.toUtc
  | toLocal => t.toLocal

/-- A change to an offset that can be made. -/
def IsProper : Change → Prop
  | withOffset offset => offset.IsProper
  | add _ | sub _ | toUtc | toLocal => True

end Change

/-- **The times that can be made**, by an origin and any number of changes after it. -/
inductive Reachable : Time → Prop
  | made (catalog : Catalog) (origin : Origin) {t : Time} (hproper : origin.offset.IsProper)
      (hmade : origin.make catalog = .ok t) : Reachable t
  | changed {t t' : Time} (ht : Reachable t) (change : Change) (hproper : change.IsProper)
      (happly : change.apply t = .ok t') : Reachable t'

/-! ### What each of them asks -/

variable {catalog : Catalog} {offset : Offset} {strict : Bool} {w : WallTime} {i : Instant}
  {t t' : Time}

theorem admitSeconds_eq_ok_iff {seconds admitted : Int} :
    admitSeconds seconds = .ok admitted ↔
      (minSeconds ≤ seconds ∧ seconds ≤ maxSeconds) ∧ admitted = seconds :=
  Failure.ite_eq_ok_iff

theorem admitNanoseconds_eq_ok_iff {nanoseconds admitted : Int} :
    admitNanoseconds nanoseconds = .ok admitted ↔
      (0 ≤ nanoseconds ∧ nanoseconds < nanosPerSecond) ∧ admitted = nanoseconds :=
  Failure.ite_eq_ok_iff

/-- **The time of an instant**: the instant is within the bounds, and the offset has a zone. -/
theorem ofInstant_eq_ok_iff :
    ofInstant catalog offset i = .ok t ↔
      (0 ≤ i.nanoseconds ∧ i.nanoseconds < nanosPerSecond) ∧
        (minSeconds ≤ i.seconds ∧ i.seconds ≤ maxSeconds) ∧
        (∃ zone, catalog.zone offset = .ok zone) ∧ t = { instant := i, offset, catalog } := by
  rw [ofInstant, Failure.bind_eq_ok_iff]
  constructor
  · rintro ⟨n, hnano, hmade⟩
    obtain ⟨s, hseconds, hmade⟩ := Failure.bind_eq_ok_iff.mp hmade
    obtain ⟨zone, hzone, hmade⟩ := Failure.bind_eq_ok_iff.mp hmade
    exact ⟨(admitNanoseconds_eq_ok_iff.mp hnano).1, (admitSeconds_eq_ok_iff.mp hseconds).1,
      ⟨zone, hzone⟩, (Except.ok.inj hmade).symm⟩
  · rintro ⟨hnano, hseconds, ⟨zone, hzone⟩, rfl⟩
    refine ⟨_, admitNanoseconds_eq_ok_iff.mpr ⟨hnano, rfl⟩, Failure.bind_eq_ok_iff.mpr ?_⟩
    exact ⟨_, admitSeconds_eq_ok_iff.mpr ⟨hseconds, rfl⟩, Failure.bind_eq_ok_iff.mpr
      ⟨zone, hzone, rfl⟩⟩

/-- A present time is the time of an instant that the clock showed. -/
theorem now_eq_ok_iff {clock : Except Failure Instant} :
    now catalog clock = .ok t ↔ ∃ i, clock = .ok i ∧ ofInstant catalog .localZone i = .ok t := by
  rw [now, ← Failure.bind_eq_ok_iff]
  cases clock >>= ofInstant catalog .localZone with
  | ok made => exact Iff.rfl
  | error failure => exact ⟨nofun, nofun⟩

/-- **A wall time given by its fields** makes the same time as the wall time itself. -/
theorem ofFields_integers :
    ofFields catalog offset strict (w.toList.map Argument.integer) =
      ofWallTime catalog offset strict w := by
  have hproper : ((w.toList.map Argument.integer).take 6).any Argument.isDeclared = false := rfl
  rw [ofFields, ArgumentList.strictWallTime_integers, ofWallTime]
  simp only [hproper]
  cases w.check with
  | error failure => rfl
  | ok v =>
    change (catalog.zone offset >>= fun _ => ofChecked catalog offset strict v) =
      ofChecked catalog offset strict v
    -- looking the zone up twice is looking it up once
    rw [ofChecked]
    cases catalog.zone offset <;> rfl

/-- **A moved time** is as far away as it was moved, if that is within the bounds. -/
theorem shift_eq_ok_iff {seconds : Int} :
    t.shift seconds = .ok t' ↔
      (minSeconds ≤ t.instant.seconds + seconds ∧ t.instant.seconds + seconds ≤ maxSeconds) ∧
        t' = { t with instant := { t.instant with seconds := t.instant.seconds + seconds } } := by
  rw [shift, Failure.bind_eq_ok_iff]
  constructor
  · rintro ⟨s, hseconds, hmade⟩
    obtain ⟨hbounds, rfl⟩ := admitSeconds_eq_ok_iff.mp hseconds
    exact ⟨hbounds, (Except.ok.inj hmade).symm⟩
  · rintro ⟨hbounds, rfl⟩
    exact ⟨_, admitSeconds_eq_ok_iff.mpr ⟨hbounds, rfl⟩, rfl⟩

/-- **A time shown elsewhere** is the same, if the other offset has a zone. -/
theorem withOffset_eq_ok_iff :
    t.withOffset offset = .ok t' ↔
      (∃ zone, t.catalog.zone offset = .ok zone) ∧ t' = { t with offset } := by
  rw [withOffset, Failure.bind_eq_ok_iff]
  constructor
  · rintro ⟨zone, hzone, hmade⟩
    exact ⟨⟨zone, hzone⟩, (Except.ok.inj hmade).symm⟩
  · rintro ⟨⟨zone, hzone⟩, rfl⟩
    exact ⟨zone, hzone, rfl⟩

/-! ### Soundness -/

/-- **What is true of every time that can be made.** -/
structure IsSound (t : Time) : Prop where
  seconds : minSeconds ≤ t.instant.seconds ∧ t.instant.seconds ≤ maxSeconds
  nanoseconds : 0 ≤ t.instant.nanoseconds ∧ t.instant.nanoseconds < nanosPerSecond
  proper : t.offset.IsProper
  zone : ∃ zone, t.catalog.zone t.offset = .ok zone

theorem isSound_of_ofInstant (ho : offset.IsProper) (h : ofInstant catalog offset i = .ok t) :
    t.IsSound := by
  obtain ⟨hnano, hseconds, hzone, rfl⟩ := ofInstant_eq_ok_iff.mp h
  exact ⟨hseconds, hnano, ho, hzone⟩

/-- A time that is made of a wall time is sound, though nobody looks at its seconds. -/
theorem isSound_of_ofWallTime (ho : offset.IsProper)
    (h : ofWallTime catalog offset strict w = .ok t) : t.IsSound := by
  obtain ⟨hlimits, zone, i, hzone, hresolve, rfl⟩ := ofWallTime_eq_ok_iff.mp h
  obtain ⟨found, hsearch, hi, -⟩ := Zone.resolve_eq_ok_iff.mp hresolve
  obtain ⟨htellable, hdecompose⟩ :=
    Zone.tellWall_eq_ok_iff.mp (Zone.tellWall_of_mem_search hsearch hi)
  have hshows : zone.Shows i w := congrArg Prod.fst hdecompose.symm
  obtain ⟨hw, hnano, hwall⟩ := Zone.shows_iff.mp hshows
  obtain ⟨hyear, -, -, -, -, -, hnanoseconds⟩ := WallTime.isWithinLimits_iff.mp hlimits
  -- the seconds are the wall seconds but for the offset, which was told and so is less than a day
  have hroom := WallTime.toSeconds_bounds_of_year hw hyear
  obtain ⟨hlow, hhigh⟩ : IsWithinDay (zone.utcOffset i.seconds) := htellable.1
  refine ⟨?_, ?_, ho, zone, hzone⟩
  · dsimp only
    omega
  · rw [nanosPerSecond]
    dsimp only
    omega

theorem IsSound.shift (ht : t.IsSound) {seconds : Int} (h : t.shift seconds = .ok t') :
    t'.IsSound := by
  obtain ⟨hseconds, rfl⟩ := shift_eq_ok_iff.mp h
  exact ⟨hseconds, ht.nanoseconds, ht.proper, ht.zone⟩

theorem IsSound.withOffset (ht : t.IsSound) (ho : offset.IsProper)
    (h : t.withOffset offset = .ok t') : t'.IsSound := by
  obtain ⟨hzone, rfl⟩ := withOffset_eq_ok_iff.mp h
  exact ⟨ht.seconds, ht.nanoseconds, ho, hzone⟩

/-- **What is made is sound**, whatever it is made of. -/
theorem Origin.isSound_of_make {origin : Origin} (ho : origin.offset.IsProper)
    (h : origin.make catalog = .ok t) : t.IsSound := by
  cases origin with
  | stamp offset seconds nanoseconds =>
    obtain ⟨s, -, h⟩ := Failure.bind_eq_ok_iff.mp h
    obtain ⟨n, -, h⟩ := Failure.bind_eq_ok_iff.mp h
    exact isSound_of_ofInstant ho h
  | present clock =>
    obtain ⟨i, -, h⟩ := now_eq_ok_iff.mp h
    exact isSound_of_ofInstant ho h
  | fields offset strict w => exact isSound_of_ofWallTime ho (ofFields_integers.symm.trans h)
  | wall offset strict w => exact isSound_of_ofWallTime ho h
  | arguments offset strict args =>
    obtain ⟨w, -, h⟩ := Failure.bind_eq_ok_iff.mp h
    exact isSound_of_ofWallTime ho h
  | array a => exact isSound_of_ofWallTime ho h

/-- **What is sound stays so**, whatever is done to it. -/
theorem Change.isSound_of_apply {change : Change} (ht : t.IsSound) (hproper : change.IsProper)
    (h : change.apply t = .ok t') : t'.IsSound := by
  cases change with
  | add a =>
    obtain ⟨seconds, -, h⟩ := Failure.bind_eq_ok_iff.mp h
    exact ht.shift h
  | sub a =>
    obtain ⟨seconds, -, h⟩ := Failure.bind_eq_ok_iff.mp h
    exact ht.shift h
  | withOffset offset => exact ht.withOffset hproper h
  | toUtc =>
    have hutc : Offset.utc.IsProper := trivial
    exact ht.withOffset hutc h
  | toLocal =>
    have hlocal : Offset.localZone.IsProper := trivial
    exact ht.withOffset hlocal h

/-- **Every time that can be made is sound.** -/
theorem Reachable.isSound (h : Reachable t) : t.IsSound := by
  induction h with
  | made catalog origin hproper hmade => exact Origin.isSound_of_make hproper hmade
  | changed _ change hproper happly ih => exact Change.isSound_of_apply ih hproper happly

/-! ### Reading -/

/-- **A time that can be made keeps its bounds and has a zone**; and if the zones of its catalog can
be told, it can be read: its wall time, its array form and all the fields of either are there. -/
theorem reading_of_reachable (h : Reachable t) :
    (minSeconds ≤ t.instant.seconds ∧ t.instant.seconds ≤ maxSeconds) ∧
      (0 ≤ t.instant.nanoseconds ∧ t.instant.nanoseconds < nanosPerSecond) ∧
      ∃ zone, t.catalog.zone t.offset = .ok zone ∧
        (t.catalog.IsTellable →
          t.reading = .ok (.ofInstant zone t.offset t.instant) ∧
            t.wall = .ok (zone.decompose t.instant).1 ∧
            t.toArrayForm = .ok (.ofReading (.ofInstant zone t.offset t.instant))) := by
  obtain ⟨hseconds, hnano, hproper, zone, hzone⟩ := h.isSound
  refine ⟨hseconds, hnano, zone, hzone, fun hcatalog => ?_⟩
  have htellable := hcatalog.zone hproper hzone t.instant.seconds
  exact ⟨reading_eq_ok_iff.mpr ⟨zone, hzone, htellable, rfl⟩,
    wall_eq_ok_iff.mpr ⟨zone, hzone, htellable, rfl⟩,
    toArrayForm_eq_ok_iff.mpr ⟨zone, hzone, htellable, rfl⟩⟩

/-- Half past one in the night when the clocks are put back, moved on by an hour, and shown in
India. -/
theorem reading_of_reachable_putBack :
    Reachable { instant := { seconds := 1667716200 }, offset := .fixed 19800,
                catalog := { localZone := Zone.putBack } } ∧
      Catalog.IsTellable { localZone := Zone.putBack } ∧
      wall { instant := { seconds := 1667716200 }, offset := .fixed 19800,
             catalog := { localZone := Zone.putBack } } =
        .ok { year := 2022, month := 11, day := 6, hour := 12 } := by
  obtain ⟨catalog, hlocal⟩ : ∃ catalog : Catalog, { localZone := Zone.putBack } = catalog :=
    ⟨_, rfl⟩
  have hmade : Reachable { instant := { seconds := 1667712600 }, offset := .localZone, catalog } :=
    .made catalog (.wall .localZone false
      { year := 2022, month := 11, day := 6, hour := 1, minute := 30 }) trivial
      (by rw [← hlocal]; decide)
  have hmoved : Reachable { instant := { seconds := 1667716200 }, offset := .localZone, catalog } :=
    hmade.changed (.add (.integer 3600)) trivial rfl
  have hshown : Reachable { instant := { seconds := 1667716200 }, offset := .fixed 19800, catalog } :=
    hmoved.changed (.withOffset (.fixed 19800)) (by decide : IsWithinDay 19800) rfl
  have hcatalog : catalog.IsTellable := by
    rw [← hlocal]
    exact ⟨Zone.isTellable_putBack, fun _ hentry => absurd hentry List.not_mem_nil⟩
  obtain ⟨-, -, zone, hzone, hread⟩ := reading_of_reachable hshown
  obtain rfl := Except.ok.inj hzone
  rw [hlocal]
  exact ⟨hshown, hcatalog, (hread hcatalog).2.1⟩

/-- A catalog with the region whose summer time is more than a day ahead. -/
def overshootCatalog : Catalog where
  zones := [("overshoot", .region Zone.overshootTable.timeline)]

/-- **A time may have a zone and yet not be read**: this one was made in the summer time of that
region, which is refused. -/
theorem reading_overshoot :
    (Zone.overshootTable.changes.map (·.1)).Pairwise (· < ·) ∧
      (∀ state ∈ Zone.overshootTable.states, IsWithinDay state.utcOffset) ∧
      ∃ t, Reachable t ∧ t.catalog = overshootCatalog ∧
        t.reading = .error .badValue ∧ t.wall = .error .badValue ∧
        t.toArrayForm = .error .badValue := by
  refine ⟨by decide, by decide, { instant := { seconds := 864000 }, offset := .named "overshoot",
                                  catalog := overshootCatalog }, ?_, rfl, ?_⟩
  · exact .made overshootCatalog (.stamp (.named "overshoot") (.integer 864000) (.integer 0))
      trivial (by decide)
  · decide

end Time

end CivilTime
