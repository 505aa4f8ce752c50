import CivilTime.DayTable
import CivilTime.Proofs.Distance

/-!
# The hours of a day

A day table is made from one hour after another, over three days of Universal Time, and an hour is
left out where the calendar in the zone shows another date. So the hours of the rows are some of
those gone through, in the same order (`CivilTime.DayTable.map_seconds_rowsFrom`), and each row
knows the row before it and nothing else (`CivilTime.DayTable.eq_rowAt_of_rowsFrom`).

That three days are enough has nothing to do with the clocks being set or not. A date is shown at
the seconds that, moved by the offset in force, fall into its day
(`CivilTime.Zone.date_decompose_eq_iff`), and an offset of less than a day moves nothing in from
beyond the days before and after it. So the rows **show the day** (`CivilTime.DayTable.ShowsDay`):

| | field |
|---|---|
| they are in order, so that no hour comes twice | `CivilTime.DayTable.ShowsDay.ascending` |
| they are of all the hours of the date and of no other | `CivilTime.DayTable.ShowsDay.hours` |
| each has what the clocks show and what the zone says | `CivilTime.DayTable.ShowsDay.shown` |
| a change of the offset from one row to the next is marked | `CivilTime.DayTable.ShowsDay.marks` |
| each is written as the line of its hour | `CivilTime.DayTable.ShowsDay.lines` |

The table is written if the zone tells all of the three days; an offset of less than a day alone
does not make it (`CivilTime.DayTable.text_overshoot`).
-/

namespace CivilTime

/-- **A date is shown** where it exists and the seconds, moved by the offset in force, fall into
its day. -/
theorem Zone.date_decompose_eq_iff {z : Zone} {i : Instant} {date : Date} :
    (z.decompose i).1.date = date ↔
      date.IsValid ∧ (i.seconds + z.utcOffset i.seconds) / secondsPerDay = date.toDays := by
  have hshown : (z.decompose i).1.date =
      .ofDays ((i.seconds + z.utcOffset i.seconds) / secondsPerDay) := rfl
  rw [hshown]
  constructor
  · rintro rfl
    exact ⟨Date.isValid_ofDays _, (Date.toDays_ofDays _).symm⟩
  · rintro ⟨hdate, hdays⟩
    rw [hdays, Date.ofDays_toDays hdate]

namespace DayTable

variable {z : Zone} {date : Date} {previous : Option Int} {hours : List Int} {s start : Int}
  {n : Nat} {r : Row}

/-! ### Hours in a row -/

/-- A number of full hours, one after the other. -/
def hoursFrom (start : Int) (n : Nat) : List Int :=
  (List.range n).map fun (i : Nat) => start + secondsPerHour * (i : Int)

/-- They are those up to the last, as far from the first as hours are. -/
theorem mem_hoursFrom_iff :
    s ∈ hoursFrom start n ↔
      secondsPerHour ∣ s - start ∧ start ≤ s ∧ s < start + secondsPerHour * n := by
  rw [hoursFrom, secondsPerHour, List.mem_map]
  constructor
  · rintro ⟨i, hi, rfl⟩
    have hlast := List.mem_range.mp hi
    omega
  · rintro ⟨hdvd, hfirst, hlast⟩
    exact ⟨((s - start) / 3600).toNat, List.mem_range.mpr (by omega), by omega⟩

theorem pairwise_hoursFrom (start : Int) (n : Nat) : (hoursFrom start n).Pairwise (· < ·) := by
  rw [hoursFrom, secondsPerHour, List.pairwise_map]
  refine List.pairwise_lt_range.imp fun h => ?_
  omega

/-- **The hours around a date** are the full hours of its day and of the days before and after it,
counted in Universal Time. -/
theorem mem_hoursAround_iff :
    s ∈ hoursAround date ↔ secondsPerHour ∣ s ∧
      (date.toDays - 1) * secondsPerDay ≤ s ∧ s < (date.toDays + 2) * secondsPerDay := by
  have hhours : hoursAround date = hoursFrom (date.toDays * secondsPerDay - secondsPerDay) 72 := rfl
  rw [hhours, mem_hoursFrom_iff, secondsPerHour, secondsPerDay]
  omega

/-! ### One row after another -/

/-- The row of an hour, after one with the offset `previous`. -/
def rowAt (z : Zone) (previous : Option Int) (s : Int) : Row where
  seconds := s
  wall := (z.decompose { seconds := s }).1
  state := z.state s
  marked := previous.any (· != z.utcOffset s)

theorem rowsFrom_cons (z : Zone) (date : Date) (previous : Option Int) (s : Int)
    (rest : List Int) :
    rowsFrom z date previous (s :: rest) =
      if (z.decompose { seconds := s }).1.date = date then
        rowAt z previous s :: rowsFrom z date (some (z.utcOffset s)) rest
      else rowsFrom z date previous rest :=
  rfl

/-- **The hours of the rows** are those at which the date is shown, in the order in which they are
gone through. -/
theorem map_seconds_rowsFrom (z : Zone) (date : Date) (previous : Option Int) (hours : List Int) :
    (rowsFrom z date previous hours).map Row.seconds =
      hours.filter fun s => (z.decompose { seconds := s }).1.date = date := by
  induction hours generalizing previous with
  | nil => rfl
  | cons s rest ih =>
    rw [rowsFrom_cons, List.filter_cons]
    by_cases h : (z.decompose { seconds := s }).1.date = date
    · rw [if_pos h, if_pos (decide_eq_true h), List.map_cons, ih]
      rfl
    · rw [if_neg h, if_neg (by rwa [decide_eq_true_eq]), ih]

/-- **Each row is that of its hour**, after the row before it, or after `previous` if it is the
first. -/
theorem eq_rowAt_of_rowsFrom {before after : List Row}
    (h : rowsFrom z date previous hours = before ++ r :: after) :
    r = rowAt z ((before.getLast?.map fun last => last.state.utcOffset).or previous) r.seconds := by
  induction hours generalizing previous before with
  | nil => exact absurd h.symm (List.append_ne_nil_of_right_ne_nil _ (List.cons_ne_nil _ _))
  | cons s rest ih =>
    rw [rowsFrom_cons] at h
    split_ifs at h
    · cases before with
      | nil =>
        obtain ⟨rfl, -⟩ := List.cons.inj h
        rfl
      | cons first before =>
        obtain ⟨rfl, hrest⟩ := List.cons.inj h
        -- for the rest, the row of this hour is the one before, until there is another
        have hrow := ih hrest
        rw [hrow, List.getLast?_cons]
        cases before.getLast? <;> rfl
    · exact ih h

/-! ### The rows of a day -/

/-- **The line of an hour**: its date and hour in Universal Time, the mark, and what the clocks of
the zone show and the zone says of it. -/
def lineAt (z : Zone) (marked : Bool) (s : Int) : String :=
  let utc := (Zone.utc.decompose { seconds := s }).1
  let (wall, state) := z.decompose { seconds := s }
  Text.zeroPadded 4 utc.year ++ "-" ++ Text.zeroPadded 2 utc.month ++ "-"
    ++ Text.zeroPadded 2 utc.day ++ " " ++ Text.zeroPadded 2 utc.hour ++ ":00"
    ++ (if marked then "  *" else "   ") ++ "  "
    ++ Text.zeroPadded 2 wall.hour ++ ":" ++ Text.zeroPadded 2 wall.minute ++ ":"
    ++ Text.zeroPadded 2 wall.second ++ "  "
    ++ Text.alignRight 6 (Offset.fixedText state.utcOffset) ++ "  " ++ state.abbreviation

/-- **Rows that show a day** in a zone. -/
structure ShowsDay (z : Zone) (date : Date) (rows : List Row) : Prop where
  /-- The hours are in order. -/
  ascending : (rows.map Row.seconds).Pairwise (· < ·)
  /-- There is a row for each full hour at which the date is shown, and for no other. -/
  hours : ∀ s, s ∈ rows.map Row.seconds ↔
    secondsPerHour ∣ s ∧ (z.decompose { seconds := s }).1.date = date
  /-- Each has the wall time of its hour, and what the zone says of it. -/
  shown : ∀ r ∈ rows, (r.wall, r.state) = z.decompose { seconds := r.seconds }
  /-- One is marked if there is a row before it, and the offset is another there. -/
  marks : ∀ before r after, rows = before ++ r :: after →
    (r.marked = true ↔
      ∃ last, before.getLast? = some last ∧ last.state.utcOffset ≠ r.state.utcOffset)
  /-- Each is written as the line of its hour. -/
  lines : ∀ r ∈ rows, r.text = lineAt z r.marked r.seconds

/-- A row of a full hour is written as the line of the hour: there are no minutes in Universal
Time. -/
theorem text_eq_lineAt (hhour : secondsPerHour ∣ r.seconds)
    (hshown : (r.wall, r.state) = z.decompose { seconds := r.seconds }) :
    r.text = lineAt z r.marked r.seconds := by
  obtain ⟨k, hk⟩ := hhour
  have hutc : (Zone.utc.decompose { seconds := r.seconds }).1 = WallTime.ofSeconds r.seconds 0 := by
    change WallTime.ofSeconds (r.seconds + 0) 0 = _
    rw [add_zero]
  have hminute : (WallTime.ofSeconds r.seconds 0).minute = 0 := by
    change r.seconds % secondsPerDay % 3600 / 60 = 0
    rw [secondsPerHour] at hk
    rw [secondsPerDay]
    omega
  have hzeros : ":" ++ Text.zeroPadded 2 0 = ":00" := by decide
  have hmark : Text.alignRight 3 (if r.marked then "*" else " ") =
      if r.marked then "  *" else "   " := by
    cases r.marked <;> decide
  unfold Row.text lineAt
  simp only [hutc, ← hshown, hminute, hmark, ← hzeros, String.append_assoc]

/-- **Three days are enough** where all offsets are less than a day: the hours of the rows are those
of the date. -/
theorem mem_seconds_rows_iff (hday : ∀ s, IsWithinDay (z.utcOffset s)) :
    s ∈ (rows z date).map Row.seconds ↔
      secondsPerHour ∣ s ∧ (z.decompose { seconds := s }).1.date = date := by
  rw [rows, map_seconds_rowsFrom, List.mem_filter, decide_eq_true_eq, mem_hoursAround_iff]
  refine ⟨fun h => ⟨h.1.1, h.2⟩, fun h => ⟨⟨h.1, ?_⟩, h.2⟩⟩
  obtain ⟨-, hdays⟩ := Zone.date_decompose_eq_iff.mp h.2
  have hoffset := hday s
  rw [IsWithinDay] at hoffset
  rw [secondsPerDay] at *
  dsimp only at hdays
  omega

/-- **The rows show the day.** -/
theorem showsDay_rows (hday : ∀ s, IsWithinDay (z.utcOffset s)) (date : Date) :
    ShowsDay z date (rows z date) := by
  have hshown : ∀ r ∈ rows z date, (r.wall, r.state) = z.decompose { seconds := r.seconds } := by
    intro r hr
    obtain ⟨before, after, hsplit⟩ := List.append_of_mem hr
    rw [eq_rowAt_of_rowsFrom hsplit]
    rfl
  refine ⟨?_, fun s => mem_seconds_rows_iff hday, hshown, fun before r after hsplit => ?_,
    fun r hr => ?_⟩
  · rw [rows, map_seconds_rowsFrom]
    exact (pairwise_hoursFrom _ 72).filter _
  · rw [eq_rowAt_of_rowsFrom hsplit, rowAt]
    cases before.getLast? with
    | none => simp
    | some last => simp [Zone.utcOffset]
  · have hhour := (mem_seconds_rows_iff hday).mp (List.mem_map_of_mem hr)
    exact text_eq_lineAt hhour.1 (hshown r hr)

/-- **A date that does not exist** has no rows. -/
theorem rows_of_not_isValid (hdate : ¬date.IsValid) : rows z date = [] := by
  rw [← List.map_eq_nil_iff, rows, map_seconds_rowsFrom, List.filter_eq_nil_iff]
  intro s _ h
  exact hdate (Zone.date_decompose_eq_iff.mp (of_decide_eq_true h)).1

/-! ### Days at a fixed distance -/

variable {distance : Int}

/-- **A day at a fixed distance from Universal Time has 24 hours.** They start with the first full
hour of the day. -/
theorem map_seconds_rows_of_keepsDistance (h : z.KeepsDistance distance)
    (hdistance : IsWithinDay distance) (hdate : date.IsValid) :
    (rows z date).map Row.seconds =
      hoursFrom (-((distance - date.toDays * secondsPerDay) / secondsPerHour) * secondsPerHour)
        24 := by
  have hday := h.isWithinDay hdistance
  refine (showsDay_rows hday date).ascending.eq_of_mem_iff (pairwise_hoursFrom _ _) fun s => ?_
  rw [mem_seconds_rows_iff hday, mem_hoursFrom_iff, Zone.date_decompose_eq_iff, h,
    and_iff_right hdate, secondsPerHour, secondsPerDay]
  dsimp only
  omega

/-- No row is marked there. -/
theorem marked_of_keepsDistance (h : z.KeepsDistance distance) (hdistance : IsWithinDay distance)
    (hr : r ∈ rows z date) : r.marked = false := by
  have hshows := showsDay_rows (h.isWithinDay hdistance) date
  have hoffset : ∀ r ∈ rows z date, r.state.utcOffset = distance := by
    intro r hr
    rw [← h r.seconds]
    exact congrArg (fun shown => shown.2.utcOffset) (hshows.shown r hr)
  obtain ⟨before, after, hsplit⟩ := List.append_of_mem hr
  refine Bool.eq_false_iff.mpr fun hmarked => ?_
  obtain ⟨last, hlast, hne⟩ := (hshows.marks before r after hsplit).mp hmarked
  refine hne ?_
  rw [hoffset r hr, hoffset last]
  rw [hsplit]
  exact List.mem_append_left _ (List.mem_of_getLast? hlast)

/-! ### The table -/

variable {c : Catalog} {offset : Offset} {zone : Zone}

/-- **The table is written if the zone tells the hours around the day**; where the offsets are less
than a day, only its savings can be refused. -/
theorem text_eq (hzone : c.zone offset = .ok zone) (hday : ∀ s, IsWithinDay (zone.utcOffset s)) :
    text c offset date =
      if ∀ s ∈ hoursAround date, IsWithinDay (zone.state s).saving then
        .ok ("\n".intercalate (lines zone date))
      else .error .badValue := by
  have htellable : ∀ s, (zone.state s).IsTellable ↔ IsWithinDay (zone.state s).saving :=
    fun s => and_iff_right (hday s)
  rw [text, hzone]
  split_ifs with h
  · have htold := Zone.tellAll_eq_ok_iff.mpr ⟨fun s hs => (htellable s).mpr (h s hs), rfl⟩
    exact Failure.bind_eq_ok_iff.mpr ⟨zone, rfl, Failure.bind_eq_ok_iff.mpr ⟨_, htold, rfl⟩⟩
  · cases htold : zone.tellAll (hoursAround date) with
    | ok states =>
      obtain ⟨hall, -⟩ := Zone.tellAll_eq_ok_iff.mp htold
      exact absurd (fun s hs => (htellable s).mp (hall s hs)) h
    | error failure =>
      obtain ⟨-, s, -, -, -, htell⟩ := Zone.tellAll_eq_error_iff.mp htold
      obtain ⟨-, rfl⟩ := Zone.tell_eq_error_iff.mp htell
      rw [if_pos (Zone.isOnCalendar_of_isWithinDay (hday s))] at htold
      exact Failure.bind_eq_error_iff.mpr
        (Or.inr ⟨zone, rfl, Failure.bind_eq_error_iff.mpr (Or.inl htold)⟩)

/-- **A day table shows the day.** In a zone whose offsets are less than a day, the rows are those
of the full hours at which the date is shown, in order, and changes of the offset are marked; the
table is written, with a line over the rows, if the savings are less than a day, too, in the three
days around the date. A date that does not exist has no rows; and at a fixed distance from Universal
Time a date that exists always has a table, with 24 rows and no mark. -/
theorem text_shows_day (hzone : c.zone offset = .ok zone)
    (hday : ∀ s, IsWithinDay (zone.utcOffset s)) (date : Date) :
    (text c offset date =
      if ∀ s ∈ hoursAround date, IsWithinDay (zone.state s).saving then
        .ok ("\n".intercalate (header :: (rows zone date).map Row.text))
      else .error .badValue) ∧
      ShowsDay zone date (rows zone date) ∧
      (¬date.IsValid → rows zone date = []) ∧
      ∀ distance, offset.distance? = some distance → date.IsValid →
        text c offset date = .ok ("\n".intercalate (header :: (rows zone date).map Row.text)) ∧
          (rows zone date).length = 24 ∧ ∀ r ∈ rows zone date, r.marked = false := by
  refine ⟨text_eq hzone hday, showsDay_rows hday date, rows_of_not_isValid,
    fun distance hoffset hdate => ?_⟩
  have hkeeps : zone.KeepsDistance distance := Offset.keepsDistance_of_zone hzone hoffset
  have hdistance : IsWithinDay distance := by
    rw [← hkeeps 0]
    exact hday 0
  obtain ⟨own, hown, -, htellable⟩ := Offset.exists_zone_of_distance hoffset hdistance
  obtain rfl : own = zone := Except.ok.inj ((hown c).symm.trans hzone)
  refine ⟨?_, ?_, fun r hr => marked_of_keepsDistance hkeeps hdistance hr⟩
  · exact (text_eq hzone hday).trans (if_pos fun s _ => (htellable s).2)
  · rw [← List.length_map Row.seconds, map_seconds_rows_of_keepsDistance hkeeps hdistance hdate,
      hoursFrom, List.length_map, List.length_range]

/-- The day on which the clocks are put back has 25 hours, and the first of those after it is
marked. There is no 30th of February, and in India the same day has 24 hours. -/
theorem text_shows_day_putBack :
    let c : Catalog := { localZone := Zone.putBack }
    let date : Date := { year := 2022, month := 11, day := 6 }
    let missing : Date := { year := 2022, month := 2, day := 30 }
    (∀ s, IsWithinDay (Zone.putBack.utcOffset s)) ∧
      text c .localZone date = .ok ("\n".intercalate (lines Zone.putBack date)) ∧
      ((rows Zone.putBack date).length = 25 ∧
        ((rows Zone.putBack date).filter Row.marked).map Row.seconds = [1667714400]) ∧
      ShowsDay Zone.putBack date (rows Zone.putBack date) ∧
      (¬missing.IsValid ∧ rows Zone.putBack missing = []) ∧
      (date.IsValid ∧ (rows (.fixed 19800) date).length = 24) := by
  intro c date missing
  have hday : ∀ s, IsWithinDay (Zone.putBack.utcOffset s) := fun s => (Zone.isTellable_putBack s).1
  have hdistance : IsWithinDay 19800 := by decide
  have hindia : ∀ s, IsWithinDay ((Zone.fixed 19800).utcOffset s) := fun _ => hdistance
  have hmissing : ¬missing.IsValid := by decide
  have hdate : date.IsValid := by decide
  have hzone : c.zone .localZone = .ok Zone.putBack := rfl
  have hfixed : c.zone (.fixed 19800) = .ok (.fixed 19800) := rfl
  obtain ⟨htext, hshows, -, -⟩ := text_shows_day hzone hday date
  obtain ⟨-, -, hnone, -⟩ := text_shows_day hzone hday missing
  obtain ⟨-, -, -, hfull⟩ := text_shows_day hfixed hindia date
  obtain ⟨-, hlength, -⟩ := hfull 19800 rfl hdate
  exact ⟨hday, htext.trans (if_pos fun s _ => (Zone.isTellable_putBack s).2), by decide +kernel,
    hshows, ⟨hmissing, hnone hmissing⟩, hdate, hlength⟩

/-- **The table may be refused** in a zone whose offsets are all less than a day. On this date there
would be ten rows; but in the night after it the zone goes over to a summer time that is more than
a day ahead of standard time, and the hours of that night are asked for, too. -/
theorem text_overshoot :
    let zone : Zone := .region Zone.overshootTable.timeline
    let date : Date := { year := 1970, month := 1, day := 10 }
    Time.overshootCatalog.zone (.named "overshoot") = .ok zone ∧
      (∀ s, IsWithinDay (zone.utcOffset s)) ∧ (rows zone date).length = 10 ∧
      text Time.overshootCatalog (.named "overshoot") date = .error .badValue := by
  intro zone date
  have hzone : Time.overshootCatalog.zone (.named "overshoot") = .ok zone := by decide
  have hday : ∀ s, IsWithinDay (zone.utcOffset s) := Zone.isWithinDay_overshoot
  have hrefused : ¬∀ s ∈ hoursAround date, IsWithinDay (zone.state s).saving := by decide +kernel
  exact ⟨hzone, hday, by decide +kernel, (text_eq hzone hday).trans (if_neg hrefused)⟩

end DayTable

end CivilTime
