import CivilTime.Zone
import Mathlib

/-!
# The two ways to look a second up

A region is looked up by the second or by the clock. Both ways lead to one of the states of its
timeline (`CivilTime.Timeline.stateAt_mem`).

By the second a region can say **whatever one likes** of the seconds of the look-up
(`CivilTime.Zone.exists_region_state_eq`), and so what is proved of all regions is proved of every
zone that can be asked about them.

The two ways lead to the same state if the clock times of the changes are **in order**
(`CivilTime.Timeline.IsOrderly`): each change has two of them, between which the clocks jump
forward or are put back, and both of a change come before both of the next one. Then what the
clocks show has as many changes before it as the second has
(`CivilTime.Timeline.isDivided_clockTimes`), whether it is shown for the first time or for the
second; and so the state found by the clock is the one in force
(`CivilTime.Timeline.stateAt_eq_stateFrom`).

The places in the lists of times are found by halving. All that matters about it is that it finds
the place in a list that the value divides (`CivilTime.Timeline.place_eq`). Clock times that are
out of order may well be divided otherwise, or not at all, and there the halving ends wherever
its steps happen to lead.
-/

namespace CivilTime

namespace Timeline

variable {t : Timeline} {s base : Int}

/-! ### No other states -/

theorem stateFrom_mem (current : ZoneState) (transitions : List Transition) (s : Int) :
    stateFrom current transitions s ∈ current :: transitions.map (·.state) := by
  induction transitions generalizing current with
  | nil => exact List.mem_singleton_self current
  | cons change rest ih =>
    rw [stateFrom]
    split_ifs with hsince
    · exact List.mem_cons_of_mem _ (ih change.state)
    · exact List.mem_cons_self

theorem stateAfter_mem (t : Timeline) (changes : Nat) : t.stateAfter changes ∈ t.states := by
  rw [stateAfter, List.getD_eq_getElem?_getD]
  cases h : t.states[changes]? with
  | none => exact List.mem_cons_self
  | some state => exact List.mem_of_getElem? h

theorem inForce_mem (t : Timeline) (s : Int) : t.inForce s ∈ t.states := by
  rw [inForce]
  cases t.lookup with
  | bySecond => exact stateFrom_mem t.initial t.transitions s
  | byClock base => exact t.stateAfter_mem _

/-- **A region is in one of its states** at every second, whichever way it is looked up. -/
theorem stateAt_mem (t : Timeline) (s : Int) : t.stateAt s ∈ t.states := by
  rw [stateAt]
  cases t.lookup with
  | bySecond => exact t.inForce_mem s
  | byClock base =>
    dsimp only
    split_ifs
    · exact t.stateAfter_mem _
    · exact t.inForce_mem s

/-! ### Whatever one likes -/

/-- Changes at one second after the other, as many as there are seconds. -/
theorem exists_stateFrom_eq (f : Int → ZoneState) (low : Int) (n : Nat) :
    ∃ transitions, (∀ current s, s < low → stateFrom current transitions s = current) ∧
      ∀ current s, low ≤ s → s < low + n → stateFrom current transitions s = f s := by
  induction n generalizing low with
  | zero => exact ⟨[], fun _ _ _ => rfl, fun _ s hlow hhigh => absurd hlow (by omega)⟩
  | succ n ih =>
    obtain ⟨rest, hbefore, hwithin⟩ := ih (low + 1)
    refine ⟨{ since := low, state := f low } :: rest, fun current s hlow => ?_,
      fun current s hlow hhigh => ?_⟩
    · exact if_neg (not_le.mpr hlow)
    · -- the changes of the later seconds have nothing to say of the first one
      rw [stateFrom, if_pos hlow]
      rcases eq_or_lt_of_le hlow with rfl | hlt
      · exact hbefore _ _ (lt_add_one low)
      · exact hwithin _ s (by omega) (by omega)

/-- **Between any two seconds a timeline can say whatever one likes.** -/
theorem exists_stateAt_eq (f : Int → ZoneState) (low high : Int) :
    ∃ t : Timeline, ∀ s, low ≤ s → s ≤ high → t.stateAt s = f s := by
  obtain ⟨transitions, -, hwithin⟩ := exists_stateFrom_eq f low (high - low + 1).toNat
  exact ⟨{ initial := f low, transitions }, fun s hlow hhigh => hwithin _ s hlow (by omega)⟩

/-! ### Halving -/

section Halving

variable {times : List Int} {value : Int} {n : Nat}

/-- A list of times is **divided** by a value at a place: the times before it are not after the
value, those from there on are. -/
def IsDivided (times : List Int) (value : Int) (n : Nat) : Prop :=
  n ≤ times.length ∧ ∀ i (h : i < times.length), times[i] ≤ value ↔ i < n

/-- Halving never loses the place. -/
theorem placeBetween_eq (hn : IsDivided times value n) {steps low high : Nat} (hlow : low ≤ n)
    (hhigh : n ≤ high) (hlength : high ≤ times.length) (hsteps : high ≤ low + steps) :
    placeBetween times value steps low high = n := by
  induction steps generalizing low high with
  | zero =>
    rw [placeBetween]
    omega
  | succ steps ih =>
    rw [placeBetween]
    by_cases hend : high ≤ low
    · rw [if_pos hend]
      omega
    · have hmiddle : (low + high) / 2 < times.length := by omega
      have hplace := hn.2 _ hmiddle
      rw [if_neg hend, List.getD_eq_getElem _ _ hmiddle]
      -- either half is shorter than the whole, and the place is in the one that is kept
      split_ifs with hbefore
      · exact ih hlow (by omega) (by omega) (by omega)
      · exact ih (by omega) hhigh hlength (by omega)

/-- **The place of a value is where it divides the list.** -/
theorem place_eq (hn : IsDivided times value n) : place times value = n := by
  rw [place]
  split_ifs with hfirst hlast
  · cases times with
    | nil => exact absurd hfirst (lt_irrefl _)
    | cons first rest =>
      have hplace := hn.2 0 (Nat.zero_lt_succ _)
      rw [List.headD_cons] at hfirst
      rw [List.getElem_cons_zero] at hplace
      omega
  · cases times using List.reverseRecOn with
    | nil => exact absurd hlast (lt_irrefl _)
    | append_singleton before last =>
      rw [List.getLastD_concat] at hlast
      have hplace := hn.2 before.length (by rw [List.length_append]; exact Nat.lt_succ_self _)
      rw [List.getElem_concat_length rfl] at hplace
      have hlength := hn.1
      rw [List.length_append, List.length_singleton] at hlength ⊢
      omega
  · exact placeBetween_eq hn (Nat.zero_le n) hn.1 le_rfl (by omega)

end Halving

/-! ### The state in force -/

theorem isDivided_cons {first value : Int} {rest : List Int} {n : Nat} :
    IsDivided (first :: rest) value (n + 1) ↔ first ≤ value ∧ IsDivided rest value n := by
  constructor
  · rintro ⟨hlength, hplace⟩
    refine ⟨(hplace 0 (Nat.zero_lt_succ _)).mpr (Nat.zero_lt_succ n),
      Nat.le_of_succ_le_succ hlength, fun i hi => ?_⟩
    have hnext := hplace (i + 1) (Nat.succ_lt_succ hi)
    rw [List.getElem_cons_succ] at hnext
    omega
  · rintro ⟨hfirst, hlength, hplace⟩
    refine ⟨Nat.succ_le_succ hlength, fun i hi => ?_⟩
    cases i with
    | zero => exact iff_of_true hfirst (Nat.zero_lt_succ n)
    | succ i =>
      have hnext := hplace i (Nat.lt_of_succ_lt_succ hi)
      rw [List.getElem_cons_succ]
      omega

/-- A list in order is divided by every value. -/
theorem exists_isDivided {times : List Int} (h : times.Pairwise (· < ·)) (value : Int) :
    ∃ n, IsDivided times value n := by
  induction times with
  | nil => exact ⟨0, le_rfl, fun i hi => absurd hi (Nat.not_lt_zero i)⟩
  | cons first rest ih =>
    obtain ⟨hfirst, hrest⟩ := List.pairwise_cons.mp h
    obtain ⟨n, hn⟩ := ih hrest
    by_cases hle : first ≤ value
    · exact ⟨n + 1, isDivided_cons.mpr ⟨hle, hn⟩⟩
    · refine ⟨0, Nat.zero_le _, fun i hi => ?_⟩
      have hmem : ∀ time ∈ first :: rest, value < time :=
        List.forall_mem_cons.mpr ⟨by omega, fun time htime => by have := hfirst time htime; omega⟩
      have hafter := hmem _ (List.getElem_mem hi)
      omega

/-- The state of the last change up to a second is the one after all changes up to then. -/
theorem getD_states_eq_stateFrom {transitions : List Transition} {s : Int} {n : Nat}
    (hn : IsDivided (transitions.map (·.since)) s n) (current other : ZoneState) :
    (current :: transitions.map (·.state)).getD n other = stateFrom current transitions s := by
  induction transitions generalizing current n with
  | nil =>
    obtain rfl : n = 0 := Nat.le_zero.mp hn.1
    rfl
  | cons change rest ih =>
    rw [List.map_cons] at hn
    rw [stateFrom]
    cases n with
    | zero =>
      have hlater := hn.2 0 (Nat.zero_lt_succ _)
      rw [List.getElem_cons_zero] at hlater
      rw [if_neg (by omega)]
      rfl
    | succ n =>
      obtain ⟨hsince, hrest⟩ := isDivided_cons.mp hn
      rw [if_pos hsince, List.getD_cons_succ]
      exact ih hrest change.state

/-- **If the changes are in order, the state in force is that of the last change** up to the
second, for the look-up by the clock as well. -/
theorem inForce_eq_stateFrom (h : t.changeTimes.Pairwise (· < ·)) (s : Int) :
    t.inForce s = stateFrom t.initial t.transitions s := by
  rw [inForce]
  cases t.lookup with
  | bySecond => rfl
  | byClock base =>
    obtain ⟨n, hn⟩ := exists_isDivided h s
    rw [changesMade, place_eq hn]
    exact getD_states_eq_stateFrom hn _ _

/-! ### Clock times in order -/

/-- **Clock times in order**: both ends of a change are shown before both ends of any later one,
and the first change is one from the state before all changes. -/
def IsOrderly (t : Timeline) (base : Int) : Prop :=
  t.changeTimes.Pairwise (· < ·) ∧ base = t.initial.utcOffset ∧
    ((t.clockTimes base true).zip (t.clockTimes base false)).Pairwise fun a b => a.2 ≤ b.1

instance (t : Timeline) (base : Int) : Decidable (t.IsOrderly base) :=
  inferInstanceAs (Decidable (_ ∧ _))

theorem length_clockTimes (t : Timeline) (base : Int) (again : Bool) :
    (t.clockTimes base again).length = t.changeTimes.length := by
  rw [clockTimes, changeTimes, List.length_zipWith, List.length_cons, List.length_map,
    List.length_map]
  omega

/-- What the clocks show at a change, by the offsets before and after it. -/
theorem getElem_clockTimes {again : Bool} {i : Nat}
    (hi : i < (t.clockTimes t.initial.utcOffset again).length) (hchange : i < t.changeTimes.length) :
    (t.clockTimes t.initial.utcOffset again)[i] =
      t.changeTimes[i] +
        if again then min (t.stateAfter i).utcOffset (t.stateAfter (i + 1)).utcOffset
        else max (t.stateAfter i).utcOffset (t.stateAfter (i + 1)).utcOffset := by
  have hlength : t.changeTimes.length = t.transitions.length := List.length_map _
  have hbefore : i < t.states.length := by
    rw [states, List.length_cons, List.length_map]
    omega
  have hafter : i + 1 < t.states.length := by
    rw [states, List.length_cons, List.length_map]
    omega
  have hoffsets : t.initial.utcOffset :: t.transitions.map (·.state.utcOffset) =
      t.states.map (·.utcOffset) := by
    rw [states, List.map_cons, List.map_map]
    rfl
  rw [stateAfter, stateAfter, List.getD_eq_getElem _ _ hbefore, List.getD_eq_getElem _ _ hafter]
  simp only [clockTimes, hoffsets, states, changeTimes, List.getElem_zipWith, List.getElem_map,
    List.getElem_cons_succ]

/-- Both ends of a change are shown before both ends of a later one. -/
theorem IsOrderly.shown_le (h : t.IsOrderly base) {i j : Nat} (hij : i < j)
    (hj : j < t.changeTimes.length) :
    t.changeTimes[i] + max (t.stateAfter i).utcOffset (t.stateAfter (i + 1)).utcOffset ≤
      t.changeTimes[j] + min (t.stateAfter j).utcOffset (t.stateAfter (j + 1)).utcOffset := by
  obtain ⟨-, rfl, hclocks⟩ := h
  have hzip : ((t.clockTimes t.initial.utcOffset true).zip
      (t.clockTimes t.initial.utcOffset false)).length = t.changeTimes.length := by
    rw [List.length_zip, length_clockTimes, length_clockTimes, Nat.min_self]
  have hends := List.pairwise_iff_getElem.mp hclocks i j (by omega) (by omega) hij
  rw [List.getElem_zip, List.getElem_zip] at hends
  dsimp only at hends
  rwa [getElem_clockTimes (by rw [length_clockTimes]; omega) (by omega),
    getElem_clockTimes (by rw [length_clockTimes]; omega) hj, if_neg Bool.false_ne_true,
    if_pos rfl] at hends

/-- Before the first change nothing is shown for the second time. -/
theorem not_isRepeated (hn : IsDivided t.changeTimes s 0) : ¬t.IsRepeated s := by
  rw [IsRepeated, changesMade, place_eq hn]
  exact fun h => absurd h.1 (lt_irrefl 0)

/-- After a change, what the clocks show is shown for the second time until they have caught up
with what they showed before. -/
theorem isRepeated_iff {last : Nat} (hn : IsDivided t.changeTimes s (last + 1))
    (hlast : last < t.changeTimes.length) :
    t.IsRepeated s ↔ s + (t.stateAfter (last + 1)).utcOffset <
      t.changeTimes[last] + (t.stateAfter last).utcOffset := by
  rw [IsRepeated, changesMade, place_eq hn, Nat.add_sub_cancel, List.getD_eq_getElem _ _ hlast]
  constructor
  · rintro ⟨-, h⟩
    omega
  · exact fun h => ⟨Nat.zero_lt_succ last, by omega⟩

/-- **Clock times in order have as many changes before them as the second has**: what the clocks
show at a second divides the clock times where the second divides the changes. -/
theorem isDivided_clockTimes (h : t.IsOrderly base) {n : Nat}
    (hn : IsDivided t.changeTimes s n) :
    IsDivided (t.clockTimes base (decide (t.IsRepeated s))) (s + (t.stateAfter n).utcOffset) n := by
  obtain rfl : base = t.initial.utcOffset := h.2.1
  refine ⟨by rw [length_clockTimes]; exact hn.1, fun i hi => ?_⟩
  have hchange : i < t.changeTimes.length := by rwa [length_clockTimes] at hi
  have hsince := hn.2 i hchange
  rw [getElem_clockTimes hi hchange]
  simp only [decide_eq_true_eq]
  by_cases hlt : i < n
  · -- the last change so far is past, by the end that counts, and the earlier ones are all the more
    obtain ⟨last, rfl⟩ : ∃ last, n = last + 1 := ⟨n - 1, by omega⟩
    have hlast : last < t.changeTimes.length := hn.1
    have hmade := (hn.2 last hlast).mpr (Nat.lt_succ_self last)
    simp only [isRepeated_iff hn hlast]
    refine iff_of_true ?_ hlt
    rcases Nat.eq_or_lt_of_le (Nat.le_of_lt_succ hlt) with rfl | hearlier
    · split_ifs <;> omega
    · have hends := h.shown_le hearlier hlast
      split_ifs <;> omega
  · -- the next change is still to come, by either end, and the later ones are all the more
    refine iff_of_false ?_ hlt
    rcases Nat.eq_or_lt_of_le (Nat.le_of_not_lt hlt) with rfl | hlater
    · cases n with
      | zero =>
        rw [if_neg (not_isRepeated hn)]
        omega
      | succ last =>
        have hlast : last < t.changeTimes.length := by omega
        simp only [isRepeated_iff hn hlast]
        have hends := h.shown_le (lt_add_one last) hchange
        split_ifs <;> omega
    · have hnext : n < t.changeTimes.length := by omega
      have htocome := hn.2 n hnext
      have hends := h.shown_le hlater hchange
      split_ifs <;> omega

/-- **Where the clock times are in order, a region can be looked up either way.** -/
theorem stateAt_eq_stateFrom (h : t.IsOrderly base) (hlookup : t.lookup = .byClock base)
    (s : Int) : t.stateAt s = stateFrom t.initial t.transitions s := by
  obtain ⟨n, hn⟩ := exists_isDivided h.1 s
  have hforce : t.inForce s = t.stateAfter n := by
    rw [inForce, hlookup, changesMade, place_eq hn]
  rw [← inForce_eq_stateFrom h.1, stateAt, hlookup]
  dsimp only
  split_ifs
  · rw [stateShown, offsetInForce, hforce, place_eq (isDivided_clockTimes h hn)]
  · rfl

/-- Otherwise it may make a difference. Here clocks are put back by ten thousand seconds, and more
than a day later they are put back by a hundred thousand, to what they showed at the first change.
When they have just been put back for the first time, that is where the look-up leads. -/
example :
    let before : ZoneState := { utcOffset := 60000, abbreviation := "P", isDst := false }
    let current : ZoneState := { utcOffset := 50000, abbreviation := "X", isDst := false }
    let late : ZoneState := { utcOffset := -50000, abbreviation := "D", isDst := true }
    let t : Timeline :=
      { initial := before
        transitions := [{ since := 0, state := current }, { since := 100000, state := late }]
        lookup := .byClock 60000 }
    t.inForce 0 = current ∧ t.stateAt 0 = late ∧ ¬t.IsOrderly 60000 := by
  decide

end Timeline

/-- **Every zone is a region**: whatever is to be said of the seconds of the look-up, there is a
region that says it. -/
theorem Zone.exists_region_state_eq (f : Int → ZoneState) :
    ∃ t : Timeline, ∀ s, (region t).state s = f (s + cycleShift s) := by
  obtain ⟨t, ht⟩ := Timeline.exists_stateAt_eq f lookupMin lookupMax
  refine ⟨t, fun s => ?_⟩
  obtain ⟨hmin, hmax⟩ := add_cycleShift_bounds s
  exact ht _ hmin hmax

end CivilTime
