import CivilTime.Proofs.Changes
import CivilTime.Proofs.Candidates
import CivilTime.Reading

/-!
# Years beyond the look-up

The calendar repeats after a **cycle** of 400 years: the same days, in the same months, on the same
days of the week (`CivilTime.Date.toDays_addCycles`, `CivilTime.weekday_add_cycles`). Seconds beyond
the look-up are answered a whole number of cycles nearer, so that the clocks of every zone repeat
there, too. What has to be seen is that nothing falls out of step. A second **leads away** with a
number of cycles if it is beyond the look-up already and the cycles take it further
(`CivilTime.LeadsAway`); then the way back is longer by just these cycles
(`CivilTime.cycleShift_add_cycles`), although it is measured differently at either end.

| what is repeated | theorem |
|---|---|
| the state of a zone | `CivilTime.Zone.state_add_cycles` |
| the wall time of an instant | `CivilTime.Zone.decompose_addCycles` |
| the instants of a wall time | `CivilTime.Zone.candidates_addCycles` |
| what is told of both, and what is refused | `CivilTime.Zone.tellWall_addCycles`, `CivilTime.Zone.search_addCycles` |

The search looks at the zone in up to nine seconds, a day or less away from the wall seconds, and
each of them takes its own way into the range (`CivilTime.Zone.near_of_mem_askedSeconds`). A wall
time that is more than a day beyond the look-up has all of them beyond
(`CivilTime.Zone.LeadsFarAway.leadsAway`).
-/

namespace CivilTime

/-! ### The calendar -/

/-- A cycle is a whole number of weeks. -/
theorem weekday_add_cycles (days k : Int) : weekday (days + k * cycleDays) = weekday days := by
  rw [weekday, weekday, cycleDays]
  omega

namespace Date

variable {d : Date} {k : Int}

/-- The date a number of cycles later, or earlier. -/
def addCycles (d : Date) (k : Int) : Date :=
  { d with year := d.year + k * cycleYears }

/-- The same dates exist in every cycle. -/
theorem isValid_addCycles : (d.addCycles k).IsValid ↔ d.IsValid := by
  rw [IsValid, IsValid, addCycles]
  simp only [monthLength, isLeapYear_add_cycles]

/-- **Cycles have the same days.** -/
theorem toDays_addCycles : (d.addCycles k).toDays = d.toDays + k * cycleDays := by
  obtain ⟨year, month, day⟩ := d
  rw [addCycles, toDays, toDays]
  dsimp only
  -- the year that starts with March is that many cycles later
  obtain ⟨marchYear, hyear⟩ : ∃ marchYear, (if month ≤ 2 then year - 1 else year) = marchYear :=
    ⟨_, rfl⟩
  have hshifted : (if month ≤ 2 then year + k * cycleYears - 1 else year + k * cycleYears) =
      marchYear + k * cycleYears := by
    rw [← hyear]
    split_ifs <;> omega
  rw [hyear, hshifted, ← add_assoc, ← add_assoc, cycle_add_daysBeforeYear, cycle_add_daysBeforeYear,
    daysBeforeMarch_add_cycles]
  omega

end Date

namespace WallTime

variable {w : WallTime} {k : Int}

/-- The wall time a number of cycles later, or earlier: only the year is another one. -/
def addCycles (w : WallTime) (k : Int) : WallTime :=
  { w with year := w.year + k * cycleYears }

theorem date_addCycles : (w.addCycles k).date = w.date.addCycles k :=
  rfl

/-- The same wall times can be shown in every cycle. -/
theorem isShowable_addCycles : (w.addCycles k).IsShowable ↔ w.IsShowable := by
  rw [IsShowable, date_addCycles, Date.isValid_addCycles]
  exact Iff.rfl

theorem toSeconds_addCycles : (w.addCycles k).toSeconds = w.toSeconds + k * cycleSeconds := by
  rw [toSeconds, date_addCycles, Date.toDays_addCycles, toSeconds, cycleSeconds, add_mul, mul_assoc,
    addCycles]
  dsimp only
  omega

/-- **The wall time of a count of seconds** that is cycles later. -/
theorem ofSeconds_add_cycles (wall nanoseconds k : Int) :
    ofSeconds (wall + k * cycleSeconds) nanoseconds = (ofSeconds wall nanoseconds).addCycles k := by
  obtain ⟨hw, hnano, hwall⟩ := ofSeconds_eq_iff.mp (Eq.refl (ofSeconds wall nanoseconds))
  refine ofSeconds_eq_iff.mpr ⟨isShowable_addCycles.mpr hw, hnano, ?_⟩
  rw [toSeconds_addCycles, ← hwall]

end WallTime

/-! ### The range of the look-up -/

/-- The instant a number of cycles later, or earlier. -/
def Instant.addCycles (i : Instant) (k : Int) : Instant :=
  { i with seconds := i.seconds + k * cycleSeconds }

theorem Instant.addCycles_lt_addCycles {i j : Instant} (k : Int) (h : i < j) :
    i.addCycles k < j.addCycles k := by
  rw [lt_iff] at *
  rw [addCycles, addCycles]
  dsimp only
  omega

/-- A second **leads away** from the look-up with a number of cycles: later if it is after the end,
earlier if it is before the start. -/
def LeadsAway (k s : Int) : Prop :=
  0 ≤ k ∧ lookupMax < s ∨ k ≤ 0 ∧ s < lookupMin

/-- **The way into the range is longer by just the cycles that lead away from it.** -/
theorem cycleShift_add_cycles {k s : Int} (h : LeadsAway k s) :
    cycleShift (s + k * cycleSeconds) = cycleShift s - k * cycleSeconds := by
  rw [LeadsAway, lookupMin_eq, lookupMax_eq] at h
  rw [cycleShift, cycleShift, lookupMin_eq, lookupMax_eq, cycleSeconds_eq]
  rcases h with ⟨hk, hs⟩ | ⟨hk, hs⟩
  · rw [if_neg (by omega), if_pos (by omega), if_neg (by omega), if_pos hs]
    omega
  · rw [if_pos (by omega), if_pos hs]
    omega

/-- So it ends at the same second. -/
theorem add_cycleShift_add_cycles {k s : Int} (h : LeadsAway k s) :
    s + k * cycleSeconds + cycleShift (s + k * cycleSeconds) = s + cycleShift s := by
  rw [cycleShift_add_cycles h]
  omega

/-! ### Zones -/

namespace Zone

variable {z : Zone} {w : WallTime} {i : Instant} {k s : Int}

/-- **The state of a zone repeats.** -/
theorem state_add_cycles (h : LeadsAway k s) : z.state (s + k * cycleSeconds) = z.state s := by
  rw [state, add_cycleShift_add_cycles h, state]

theorem utcOffset_add_cycles (h : LeadsAway k s) :
    z.utcOffset (s + k * cycleSeconds) = z.utcOffset s := by
  rw [utcOffset, state_add_cycles h, utcOffset]

/-- A zone refuses to tell what it refused to tell cycles before. -/
theorem tell_add_cycles (h : LeadsAway k s) : z.tell (s + k * cycleSeconds) = z.tell s := by
  have hcalendar : z.IsOnCalendar (s + k * cycleSeconds) ↔ z.IsOnCalendar s := by
    rw [IsOnCalendar, add_cycleShift_add_cycles h, IsOnCalendar]
  simp only [tell, hcalendar, state_add_cycles h]

/-- **The wall time of an instant repeats**, but for the year. -/
theorem decompose_addCycles (h : LeadsAway k i.seconds) :
    z.decompose (i.addCycles k) = ((z.decompose i).1.addCycles k, (z.decompose i).2) := by
  have hstate : z.state (i.addCycles k).seconds = z.state i.seconds := state_add_cycles h
  have hwall : (i.addCycles k).seconds + (z.state i.seconds).utcOffset =
      i.seconds + (z.state i.seconds).utcOffset + k * cycleSeconds := by
    rw [Instant.addCycles]
    dsimp only
    omega
  rw [decompose, hstate, hwall]
  exact Prod.ext (WallTime.ofSeconds_add_cycles _ _ _) rfl

theorem tellWall_addCycles (h : LeadsAway k i.seconds) :
    z.tellWall (i.addCycles k) = (z.tellWall i).map fun r => (r.1.addCycles k, r.2) := by
  have htell : z.tell (i.addCycles k).seconds = z.tell i.seconds := tell_add_cycles h
  rw [tellWall, tellWall, htell, decompose_addCycles h]
  cases z.tell i.seconds <;> rfl

/-! ### The search for instants -/

/-- Wall seconds that lead away from the look-up, and **more than a day beyond it**. -/
def LeadsFarAway (k wall : Int) : Prop :=
  0 ≤ k ∧ lookupMax + secondsPerDay < wall ∨ k ≤ 0 ∧ wall < lookupMin - secondsPerDay

/-- Then all seconds within a day of them lead away. -/
theorem LeadsFarAway.leadsAway {wall : Int} (h : LeadsFarAway k wall)
    (hs : wall - secondsPerDay ≤ s ∧ s ≤ wall + secondsPerDay) : LeadsAway k s := by
  rw [LeadsFarAway] at h
  rw [LeadsAway]
  omega

/-- The same offsets may apply in every cycle. -/
theorem possibleOffsets_add_cycles (hz : ∀ s, IsWithinDay (z.utcOffset s)) {wall : Int}
    (h : LeadsFarAway k wall) :
    z.possibleOffsets (wall + k * cycleSeconds) = z.possibleOffsets wall := by
  have hday : (0 : Int) ≤ secondsPerDay := by decide
  have hprobed : z.probedOffsets (wall + k * cycleSeconds) = z.probedOffsets wall := by
    rw [probedOffsets, probedOffsets, add_sub_right_comm, add_right_comm,
      utcOffset_add_cycles (h.leadsAway (by omega)), utcOffset_add_cycles (h.leadsAway (by omega)),
      utcOffset_add_cycles (h.leadsAway (by omega))]
  rw [possibleOffsets, possibleOffsets, hprobed]
  congr 1
  refine List.map_congr_left fun offset hoffset => ?_
  obtain ⟨t, -, rfl⟩ := exists_near_of_mem_possibleOffsets (fun s _ => hz s)
    (List.mem_append_left _ hoffset)
  have hoffset := hz t
  rw [IsWithinDay] at hoffset
  rw [add_sub_right_comm, utcOffset_add_cycles (h.leadsAway (by omega))]

theorem askedSeconds_add_cycles (hz : ∀ s, IsWithinDay (z.utcOffset s)) {wall : Int}
    (h : LeadsFarAway k wall) :
    z.askedSeconds (wall + k * cycleSeconds) =
      (z.askedSeconds wall).map fun s => s + k * cycleSeconds := by
  rw [askedSeconds, askedSeconds, possibleOffsets_add_cycles hz h]
  simp only [List.map_append, List.map_cons, List.map_nil, List.map_map, Function.comp_def,
    add_sub_right_comm, add_right_comm]

/-- An instant that leads away is a candidate in one cycle if it is one in another. -/
theorem addCycles_mem_candidates_iff (hz : ∀ s, IsWithinDay (z.utcOffset s))
    (h : LeadsFarAway k w.toSeconds) (hi : LeadsAway k i.seconds) :
    i.addCycles k ∈ z.candidates (w.addCycles k) ↔ i ∈ z.candidates w := by
  have hoffset : z.utcOffset (i.addCycles k).seconds = z.utcOffset i.seconds :=
    utcOffset_add_cycles hi
  have hsum : (i.addCycles k).seconds + z.utcOffset i.seconds = w.toSeconds + k * cycleSeconds ↔
      i.seconds + z.utcOffset i.seconds = w.toSeconds := by
    rw [Instant.addCycles, add_right_comm, add_left_inj]
  rw [mem_candidates_iff, mem_candidates_iff, shows_iff, shows_iff, WallTime.isShowable_addCycles,
    WallTime.toSeconds_addCycles, hoffset, hsum, possibleOffsets_add_cycles hz h]
  exact Iff.rfl

/-- **The candidates of a wall time repeat.** -/
theorem candidates_addCycles (hz : ∀ s, IsWithinDay (z.utcOffset s))
    (h : LeadsFarAway k w.toSeconds) :
    z.candidates (w.addCycles k) = (z.candidates w).map fun i => i.addCycles k := by
  have hmono : StrictMono fun i : Instant => i.addCycles k :=
    fun i j hij => Instant.addCycles_lt_addCycles k hij
  -- both lists are strictly in order, so it is enough that they have the same members
  refine (pairwise_candidates z _).eq_of_mem_iff
    (List.pairwise_map.mpr ((pairwise_candidates z w).imp fun hij => hmono hij)) fun j => ?_
  obtain ⟨i, rfl⟩ : ∃ i : Instant, i.addCycles k = j :=
    ⟨j.addCycles (-k), by rw [Instant.eq_iff, Instant.addCycles, Instant.addCycles]; simp⟩
  rw [List.mem_map_of_injective hmono.injective]
  constructor
  · intro hi
    have hnear := near_of_mem_askedSeconds (fun s _ => hz s) (seconds_mem_askedSeconds hi)
    rw [WallTime.toSeconds_addCycles, Instant.addCycles] at hnear
    dsimp only at hnear
    exact (addCycles_mem_candidates_iff hz h (h.leadsAway (by omega))).mp hi
  · intro hi
    have hnear := near_of_mem_askedSeconds (fun s _ => hz s) (seconds_mem_askedSeconds hi)
    exact (addCycles_mem_candidates_iff hz h (h.leadsAway hnear)).mpr hi

/-- Of seconds that lead away, a zone refuses to tell what it refused to tell cycles before. -/
theorem tellAll_add_cycles {seconds : List Int} (h : ∀ s ∈ seconds, LeadsAway k s) :
    z.tellAll (seconds.map fun s => s + k * cycleSeconds) = z.tellAll seconds := by
  rw [tellAll, tellAll]
  induction seconds with
  | nil => rfl
  | cons s rest ih =>
    obtain ⟨hs, hrest⟩ := List.forall_mem_cons.mp h
    rw [List.map_cons, List.mapM_cons, List.mapM_cons, tell_add_cycles hs, ih hrest]

/-- **The search for the instants of a wall time repeats**, whether it answers or fails. -/
theorem search_addCycles (hz : ∀ s, IsWithinDay (z.utcOffset s))
    (h : LeadsFarAway k w.toSeconds) :
    z.search (w.addCycles k) =
      (z.search w).map fun found => found.map fun i => i.addCycles k := by
  have htell : z.tellAll (z.askedSeconds (w.addCycles k).toSeconds) =
      z.tellAll (z.askedSeconds w.toSeconds) := by
    rw [WallTime.toSeconds_addCycles, askedSeconds_add_cycles hz h]
    exact tellAll_add_cycles fun s hs =>
      h.leadsAway (near_of_mem_askedSeconds (fun s _ => hz s) hs)
  rw [search, search, htell, candidates_addCycles hz h]
  simp only [WallTime.isShowable_addCycles]
  split_ifs
  · cases z.tellAll (z.askedSeconds w.toSeconds) <;> rfl
  · rfl

/-! ### Everything repeats -/

/-- **Beyond the look-up every zone repeats after 400 years**, at either end and any number of
times. Cycles away from the look-up an instant has the same state, the same fields but for the year
and the same day of the week, and a wall time has the same instants but for the cycles. What is
refused in one cycle is refused in the other, in the same way. -/
theorem repeats_beyond_lookup (hz : ∀ s, IsWithinDay (z.utcOffset s)) (k : Int) :
    (∀ i : Instant, LeadsAway k i.seconds →
      z.decompose (i.addCycles k) = ((z.decompose i).1.addCycles k, (z.decompose i).2) ∧
        z.tellWall (i.addCycles k) = ((z.tellWall i).map fun r => (r.1.addCycles k, r.2)) ∧
        ∀ offset, (Reading.ofInstant z offset (i.addCycles k)).weekday =
          (Reading.ofInstant z offset i).weekday) ∧
      ∀ w : WallTime, LeadsFarAway k w.toSeconds →
        z.candidates (w.addCycles k) = ((z.candidates w).map fun i => i.addCycles k) ∧
          z.search (w.addCycles k) =
            ((z.search w).map fun found => found.map fun i => i.addCycles k) := by
  refine ⟨fun i hi => ⟨decompose_addCycles hi, tellWall_addCycles hi, fun offset => ?_⟩,
    fun w hw => ⟨candidates_addCycles hz hw, search_addCycles hz hw⟩⟩
  have hwall : (Reading.ofInstant z offset (i.addCycles k)).wall =
      (Reading.ofInstant z offset i).wall.addCycles k :=
    congrArg Prod.fst (decompose_addCycles hi)
  rw [Reading.weekday, Reading.weekday, hwall, WallTime.date_addCycles, Date.toDays_addCycles,
    weekday_add_cycles]

/-- Clocks that are put back in November 9800, in the last cycle of the look-up. -/
def putBackLate : Zone :=
  region
    { initial := { utcOffset := -14400, abbreviation := "EDT", isDst := true, saving := 3600 }
      transitions :=
        [{ since := 247117327200
           state := { utcOffset := -18000, abbreviation := "EST", isDst := false } }] }

/-- They are put back again in the Novembers of 10200 and of 10600, so that half past one comes
twice in these nights, too; and the year -400 starts on them as the year 0 does, in the evening
before. -/
theorem repeats_putBackLate :
    (∀ s, IsWithinDay (putBackLate.utcOffset s)) ∧
      LeadsFarAway 1 (WallTime.toSeconds
        { year := 10200, month := 11, day := 2, hour := 1, minute := 30 }) ∧
      putBackLate.candidates { year := 10600, month := 11, day := 2, hour := 1, minute := 30 } =
        [{ seconds := 272362887000 }, { seconds := 272362890600 }] ∧
      LeadsAway (-1) (-62167219200) ∧
      (putBackLate.decompose { seconds := -62167219200 - cycleSeconds }).1 =
        { year := -401, month := 12, day := 31, hour := 20 } := by
  have hz : ∀ s, IsWithinDay (putBackLate.utcOffset s) := fun s =>
    (isTellable_region (by decide) s).1
  have hfar : LeadsFarAway 1 (WallTime.toSeconds
      { year := 10200, month := 11, day := 2, hour := 1, minute := 30 }) := Or.inl (by decide)
  have haway : LeadsAway (-1) (-62167219200) := Or.inr (by decide)
  have hfirst : putBackLate.candidates
      { year := 10200, month := 11, day := 2, hour := 1, minute := 30 } =
        [{ seconds := 259740106200 }, { seconds := 259740109800 }] := by decide
  refine ⟨hz, hfar, ?_, haway, ?_⟩
  · have hagain := ((repeats_beyond_lookup hz 1).2 _ hfar).1
    rw [hfirst] at hagain
    exact hagain
  · have hbefore := ((repeats_beyond_lookup hz (-1)).1 { seconds := -62167219200 } haway).1
    have hshifted : Instant.addCycles { seconds := -62167219200 } (-1) =
        { seconds := -62167219200 - cycleSeconds } := by decide
    rw [hshifted] at hbefore
    rw [hbefore]
    decide

end Zone

end CivilTime
