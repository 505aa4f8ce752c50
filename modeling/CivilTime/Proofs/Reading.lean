import CivilTime.Proofs.Reachable
import CivilTime.Proofs.YearDay

/-!
# What is read from an instant

At an instant the clocks of a zone show a wall time, and it is **exact**
(`CivilTime.WallTime.Tells`): a date that exists and a time of day, which add up to the seconds of
the instant and the offset in force there. All that is asked of a time goes back to this one wall
time. Its fields are read from it, and so is the array form (`CivilTime.Reading.Agrees`); and what
is told of the day is worked out anew from the date, but must come to what the count of days says
(`CivilTime.Reading.TellsDay`):

| | from the date | by the count of days |
|---|---|---|
| the day of the week | `CivilTime.weekday` of its day number | `CivilTime.Reading.weekday_ofInstant` |
| the day of the year | `CivilTime.Date.yearDay` | `CivilTime.Date.yearDay_eq` |

What cannot be told cannot be read either (`CivilTime.Zone.tellWall_of_not_isTellable`). This may
happen in a zone whose offsets are all less than a day (`CivilTime.Zone.tellWall_overshoot`).
-/

namespace CivilTime

/-! ### The wall time -/

/-- A wall time **tells** a count of wall seconds and the nanoseconds of the second: its date
exists, its time of day is on the clock, and they add up to the count. -/
structure WallTime.Tells (w : WallTime) (seconds nanoseconds : Int) : Prop where
  date : w.date.IsValid
  hour : 0 ≤ w.hour ∧ w.hour ≤ 23
  minute : 0 ≤ w.minute ∧ w.minute ≤ 59
  second : 0 ≤ w.second ∧ w.second ≤ 59
  sum : w.date.toDays * 86400 + w.hour * 3600 + w.minute * 60 + w.second = seconds
  nanoseconds : w.nanoseconds = nanoseconds

namespace Zone

variable {z : Zone} {i : Instant}

/-- **The wall time of an instant tells its seconds**, moved by the offset in force. -/
theorem tells_decompose (z : Zone) (i : Instant) :
    (z.decompose i).1.Tells (i.seconds + z.utcOffset i.seconds) i.nanoseconds := by
  have hshows : z.Shows i (z.decompose i).1 := rfl
  obtain ⟨⟨⟨hhour, hminute, hsecond⟩, hdate⟩, hnano, hsum⟩ := shows_iff.mp hshows
  exact ⟨hdate, hhour, hminute, hsecond, hsum.symm, hnano.symm⟩

/-- **What is not told cannot be read.** -/
theorem tellWall_of_not_isTellable (h : ¬(z.state i.seconds).IsTellable) :
    ∃ failure, z.tellWall i = .error failure ∧ failure.IsRefusal := by
  cases hwall : z.tellWall i with
  | ok r => exact absurd (tellWall_eq_ok_iff.mp hwall).1 h
  | error failure =>
    rcases Failure.bind_eq_error_iff.mp hwall with htell | ⟨state, -, hmade⟩
    · exact ⟨failure, rfl, (isRefusal_of_tell htell).2⟩
    · exact absurd hmade nofun

end Zone

/-! ### The day -/

/-- What a reading **tells of the day** that has a day number: the day of the week, which is one and
has one name, and the day of the year, by months. -/
structure Reading.TellsDay (r : Reading) (days : Int) : Prop where
  weekday : r.weekday = (days + 4) % 7
  isWeekday : ∀ number, 0 ≤ number → number ≤ 6 → (r.isWeekday number = true ↔ number = r.weekday)
  today : ∃ name, Reading.dayNames[r.weekday.toNat]? = some name ∧ r.todayNames = [name]
  yearDay : r.yearDay = r.day + ∑ month ∈ Finset.Ico 1 r.month, monthLength r.year month
  bounds : 1 ≤ r.yearDay ∧ r.yearDay ≤ if IsLeapYear r.year then 366 else 365

namespace Reading

variable {r : Reading}

/-- The day of the week is one of seven. -/
theorem weekday_bounds (r : Reading) : 0 ≤ r.weekday ∧ r.weekday ≤ 6 := by
  unfold weekday CivilTime.weekday
  omega

/-- **It is one day of the week**, and that has one name. -/
theorem todayNames_eq (r : Reading) :
    ∃ name, dayNames[r.weekday.toNat]? = some name ∧ r.todayNames = [name] := by
  obtain ⟨hlow, hhigh⟩ := r.weekday_bounds
  obtain ⟨number, hnumber⟩ : ∃ number, r.weekday = number := ⟨_, rfl⟩
  have htoday : r.todayNames = (dayNames.zipIdx.filter fun day => number == day.2).map (·.1) := by
    simp only [todayNames, isWeekday, hnumber]
  rw [hnumber] at hlow hhigh ⊢
  rw [htoday]
  -- each of the seven numbers has its own name
  interval_cases number <;> exact ⟨_, rfl, rfl⟩

/-- **The day of the week of an instant** goes by the days that have passed in its zone. -/
theorem weekday_ofInstant (z : Zone) (offset : Offset) (i : Instant) :
    (ofInstant z offset i).weekday =
      ((i.seconds + z.utcOffset i.seconds) / secondsPerDay + 4) % 7 := by
  have hdays : (ofInstant z offset i).wall.date.toDays =
      (i.seconds + z.utcOffset i.seconds) / secondsPerDay :=
    Date.toDays_ofDays _
  rw [weekday, hdays, CivilTime.weekday]

/-- **What the reading of an instant tells of the day** is what the count of days says. -/
theorem tellsDay_ofInstant (z : Zone) (offset : Offset) (i : Instant) :
    (ofInstant z offset i).TellsDay ((i.seconds + z.utcOffset i.seconds) / secondsPerDay) := by
  have hdate : (ofInstant z offset i).wall.date.IsValid := (Zone.tells_decompose z i).date
  refine ⟨weekday_ofInstant z offset i, fun number _ _ => ?_, todayNames_eq _,
    Date.yearDay_eq hdate.1, Date.yearDay_bounds hdate⟩
  rw [isWeekday, beq_iff_eq, eq_comm]

/-! ### The fields -/

/-- A reading and an array form **agree** on what the clocks of a zone show: they have its fields,
the array form at the whole second, and what the zone says, and all that they tell of the day is the
same. -/
structure Agrees (r : Reading) (a : ArrayForm) (shown : WallTime × ZoneState) : Prop where
  fields : [r.year, r.month, r.day, r.hour, r.minute, r.second, r.nanosecond] = shown.1.toList
  microsecond : r.microsecond = shown.1.nanoseconds / 1000
  utcOffset : r.utcOffset = shown.2.utcOffset
  isDst : r.isDst = shown.2.isDst ∧ a.isDst = shown.2.isDst
  wall : a.wall = { shown.1 with nanoseconds := 0 }
  weekday : a.weekday = r.weekday
  yearDay : a.yearDay = r.yearDay
  zone : a.offset = r.offset ∧ a.zoneName = r.zoneName

/-- **The reading of an instant and its array form agree.** -/
theorem agrees_ofInstant (z : Zone) (offset : Offset) (i : Instant) :
    (ofInstant z offset i).Agrees (.ofReading (ofInstant z offset i)) (z.decompose i) :=
  ⟨rfl, rfl, rfl, ⟨rfl, rfl⟩, rfl, rfl, rfl, ⟨rfl, rfl⟩⟩

end Reading

/-! ### Reading a time -/

namespace Time

/-- **Reading is exact, and all readings agree.** In any zone and at any instant the clocks show a
wall time that tells the seconds of the instant, moved by the offset in force; it is read if the
zone tells it, and else the reading is refused. A time that can be made has a zone, which tells it
if the zones of its catalog can be told. Then the fields of the time and its array form are those
of this wall time, and the day of the week and of the year are those of its day. -/
theorem reading_exact :
    (∀ (z : Zone) (i : Instant),
      ((z.state i.seconds).IsTellable → z.tellWall i = .ok (z.decompose i)) ∧
        (¬(z.state i.seconds).IsTellable →
          ∃ failure, z.tellWall i = .error failure ∧ failure.IsRefusal) ∧
        (z.decompose i).2 = z.state i.seconds ∧
        (z.decompose i).1.Tells (i.seconds + z.utcOffset i.seconds) i.nanoseconds) ∧
      ∀ t, Reachable t → ∃ zone, t.catalog.zone t.offset = .ok zone ∧
        (t.catalog.IsTellable → (zone.state t.instant.seconds).IsTellable) ∧
        ((zone.state t.instant.seconds).IsTellable → ∃ r a,
          t.reading = .ok r ∧ t.wall = .ok (zone.decompose t.instant).1 ∧ t.toArrayForm = .ok a ∧
            r.Agrees a (zone.decompose t.instant) ∧
            r.TellsDay
              ((t.instant.seconds + zone.utcOffset t.instant.seconds) / secondsPerDay)) := by
  constructor
  · intro z i
    exact ⟨fun h => Zone.tellWall_eq_ok_iff.mpr ⟨h, rfl⟩, Zone.tellWall_of_not_isTellable, rfl,
      Zone.tells_decompose z i⟩
  · intro t ht
    obtain ⟨-, -, hproper, zone, hzone⟩ := ht.isSound
    refine ⟨zone, hzone, fun hcatalog => hcatalog.zone hproper hzone _, fun htellable => ?_⟩
    exact ⟨.ofInstant zone t.offset t.instant, _,
      reading_eq_ok_iff.mpr ⟨zone, hzone, htellable, rfl⟩,
      wall_eq_ok_iff.mpr ⟨zone, hzone, htellable, rfl⟩,
      toArrayForm_eq_ok_iff.mpr ⟨zone, hzone, htellable, rfl⟩,
      Reading.agrees_ofInstant zone t.offset t.instant,
      Reading.tellsDay_ofInstant zone t.offset t.instant⟩

/-- The last evening of the leap year 2024, a Tuesday, when it is 2025 in Universal Time already. In
the summer time that is more than a day ahead of standard time nothing can be read. -/
theorem reading_exact_leapYear :
    let t : Time := { instant := { seconds := 1735703999 }, offset := .localZone,
                      catalog := { localZone := Zone.putBack } }
    let refusing : Zone := .region Zone.overshootTable.timeline
    (Reachable t ∧ t.catalog.IsTellable) ∧
      Zone.putBack.tellWall t.instant = .ok (Zone.putBack.decompose t.instant) ∧
      (¬(refusing.state 864000).IsTellable ∧
        ∃ failure, refusing.tellWall { seconds := 864000 } = .error failure ∧ failure.IsRefusal) ∧
      t.wall = .ok { year := 2024, month := 12, day := 31, hour := 22, minute := 59, second := 59 } ∧
      ∃ r, t.reading = .ok r ∧ r.weekday = 2 ∧ (∀ number, 0 ≤ number → number ≤ 6 →
        (r.isWeekday number = true ↔ number = 2)) ∧
        r.yearDay = r.day + ∑ month ∈ Finset.Ico 1 r.month, monthLength r.year month := by
  intro t refusing
  have hmade : Reachable t :=
    .made { localZone := Zone.putBack } (.stamp .localZone (.integer 1735703999) (.integer 0)) trivial
      (by decide)
  have hcatalog : t.catalog.IsTellable :=
    ⟨Zone.isTellable_putBack, fun _ hentry => absurd hentry List.not_mem_nil⟩
  have hrefusing : ¬(refusing.state 864000).IsTellable := by decide
  obtain ⟨hzones, htimes⟩ := reading_exact
  obtain ⟨zone, hzone, htold, hread⟩ := htimes t hmade
  obtain rfl := Except.ok.inj hzone
  have htellable := htold hcatalog
  obtain ⟨hwallTold, -⟩ := hzones Zone.putBack t.instant
  obtain ⟨-, hrefused, -⟩ := hzones refusing { seconds := 864000 }
  obtain ⟨r, a, hreading, hwall, -, -, hday⟩ := hread htellable
  have htuesday : r.weekday = 2 := hday.weekday.trans (by decide)
  refine ⟨⟨hmade, hcatalog⟩, hwallTold htellable, ⟨hrefusing, hrefused hrefusing⟩, hwall, r, hreading,
    htuesday, ?_, hday.yearDay⟩
  intro number hlow hhigh
  rw [hday.isWeekday number hlow hhigh, htuesday]

end Time

/-- **An instant may be refused** in a region whose offsets are all less than a day: this one is in
a summer time that is more than a day ahead of standard time. -/
theorem Zone.tellWall_overshoot :
    (Zone.overshootTable.changes.map (·.1)).Pairwise (· < ·) ∧
      (∀ state ∈ Zone.overshootTable.states, IsWithinDay state.utcOffset) ∧
      (Zone.region Zone.overshootTable.timeline).tellWall { seconds := 864000 } =
        .error .badValue := by
  decide

end CivilTime
