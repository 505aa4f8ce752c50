import CivilTime.Proofs.Instant
import CivilTime.Proofs.WallTime
import CivilTime.Resolution

/-!
# What a candidate is

At every instant the clocks of a zone show one wall time (`CivilTime.Zone.Shows`). Finding
the instants of a wall time is going this way backwards, and here is how far
`CivilTime.Zone.candidates` comes, in a zone that may be set as it likes:

* a candidate **is** an instant that shows the wall time, and the other way round an
  instant that shows it is a candidate if its offset is among those that were thought
  possible (`CivilTime.Zone.mem_candidates_iff`);
* the candidates are strictly in order (`CivilTime.Zone.pairwise_candidates`), and the first
  of them is what a wall time is resolved to (`CivilTime.Zone.resolve_eq_ok_iff`);
* the search for them fails only where the zone does not tell what it is asked
  (`CivilTime.Zone.search_eq_ok_iff`).

So nothing is ever found that is not there. Whether everything is found is another
question, and depends on how often the clocks of the zone are set.
-/

namespace CivilTime

namespace Zone

variable {z : Zone} {w : WallTime} {i : Instant}

/-! ### Showing a wall time -/

/-- At an instant the clocks of a zone **show** a wall time. -/
def Shows (z : Zone) (i : Instant) (w : WallTime) : Prop :=
  (z.decompose i).1 = w

instance : Decidable (z.Shows i w) :=
  inferInstanceAs (Decidable (_ = _))

/-- **A wall time is shown** if it can be, and where instant and offset add up to its wall
seconds. -/
theorem shows_iff :
    z.Shows i w ↔ w.IsShowable ∧ i.nanoseconds = w.nanoseconds ∧
      i.seconds + z.utcOffset i.seconds = w.toSeconds :=
  WallTime.ofSeconds_eq_iff

/-- Reading an instant succeeds where the zone tells it. -/
theorem tellWall_eq_ok_iff {r : WallTime × ZoneState} :
    z.tellWall i = .ok r ↔ (z.state i.seconds).IsTellable ∧ r = z.decompose i := by
  rw [tellWall, Failure.bind_eq_ok_iff]
  constructor
  · rintro ⟨state, htell, hr⟩
    exact ⟨(tell_eq_ok_iff.mp htell).1, (Except.ok.inj hr).symm⟩
  · rintro ⟨htellable, rfl⟩
    exact ⟨_, tell_eq_ok_iff.mpr ⟨htellable, rfl⟩, rfl⟩

/-! ### Candidates -/

/-- An offset leads to an instant where it is in force. -/
theorem confirm?_eq_some_iff {offset : Int} :
    z.confirm? w offset = some i ↔ z.utcOffset i.seconds = offset ∧
      i.nanoseconds = w.nanoseconds ∧ i.seconds + z.utcOffset i.seconds = w.toSeconds := by
  rw [confirm?]
  split_ifs with hforce
  · rw [Option.some_inj]
    constructor
    · rintro rfl
      exact ⟨hforce, rfl, by dsimp only; omega⟩
    · rintro ⟨hi, hnanoseconds, hseconds⟩
      rw [Instant.eq_iff]
      exact ⟨by dsimp only; omega, hnanoseconds.symm⟩
  · refine ⟨nofun, ?_⟩
    -- an instant with this offset is the one that the offset leads to
    rintro ⟨rfl, -, hseconds⟩
    refine absurd ?_ hforce
    rw [← hseconds, add_sub_cancel_right]

/-- **The candidates of a wall time** are the instants that show it, as far as their offsets
were thought possible. -/
theorem mem_candidates_iff :
    i ∈ z.candidates w ↔
      z.Shows i w ∧ z.utcOffset i.seconds ∈ z.possibleOffsets w.toSeconds := by
  rw [shows_iff, candidates]
  split_ifs with hw
  · rw [Instant.mem_ascending, List.mem_filterMap]
    constructor
    · rintro ⟨offset, hoffset, hconfirm⟩
      obtain ⟨rfl, hshows⟩ := confirm?_eq_some_iff.mp hconfirm
      exact ⟨⟨hw, hshows⟩, hoffset⟩
    · rintro ⟨⟨-, hshows⟩, hoffset⟩
      exact ⟨_, hoffset, confirm?_eq_some_iff.mpr ⟨rfl, hshows⟩⟩
  · exact ⟨nofun, fun h => absurd h.1.1 hw⟩

/-- **The candidates are strictly in order.** -/
theorem pairwise_candidates (z : Zone) (w : WallTime) : (z.candidates w).Pairwise (· < ·) := by
  rw [candidates]
  split_ifs
  · exact Instant.pairwise_ascending _
  · exact List.Pairwise.nil

/-! ### The search for them -/

/-- **The search finds the candidates**, or it is refused an answer on the way. -/
theorem search_eq_ok_iff {found : List Instant} :
    z.search w = .ok found ↔
      (w.IsShowable → ∀ s ∈ z.askedSeconds w.toSeconds, (z.state s).IsTellable) ∧
        found = z.candidates w := by
  rw [search]
  split_ifs with hw
  · rw [Failure.bind_eq_ok_iff]
    constructor
    · rintro ⟨states, htell, hfound⟩
      exact ⟨fun _ => (tellAll_eq_ok_iff.mp htell).1, (Except.ok.inj hfound).symm⟩
    · rintro ⟨htellable, rfl⟩
      exact ⟨_, tellAll_eq_ok_iff.mpr ⟨htellable hw, rfl⟩, rfl⟩
  · have hnone : z.candidates w = [] := if_neg hw
    rw [hnone]
    exact ⟨fun h => ⟨fun h' => absurd h' hw, (Except.ok.inj h).symm⟩, fun h => congrArg _ h.2.symm⟩

/-- The seconds of the candidates are among those that were asked about. -/
theorem seconds_mem_askedSeconds (hi : i ∈ z.candidates w) :
    i.seconds ∈ z.askedSeconds w.toSeconds := by
  obtain ⟨hshows, hoffset⟩ := mem_candidates_iff.mp hi
  obtain ⟨-, -, hseconds⟩ := shows_iff.mp hshows
  refine List.mem_append_right _ (List.mem_map.mpr ⟨_, hoffset, ?_⟩)
  rw [← hseconds, add_sub_cancel_right]

/-- The offsets that may apply to a wall time are **in force within a day of it**, if all that is in
force there is less than a day. -/
theorem exists_near_of_mem_possibleOffsets {wall offset : Int}
    (hday : ∀ s, wall - secondsPerDay ≤ s ∧ s ≤ wall + secondsPerDay → IsWithinDay (z.utcOffset s))
    (h : offset ∈ z.possibleOffsets wall) :
    ∃ s, (wall - secondsPerDay ≤ s ∧ s ≤ wall + secondsPerDay) ∧ offset = z.utcOffset s := by
  have hprobed : ∀ probed ∈ z.probedOffsets wall,
      ∃ s, (wall - secondsPerDay ≤ s ∧ s ≤ wall + secondsPerDay) ∧ probed = z.utcOffset s := by
    simp only [probedOffsets, List.forall_mem_cons, secondsPerDay]
    exact ⟨⟨_, by omega, rfl⟩, ⟨_, by omega, rfl⟩, ⟨_, by omega, rfl⟩, List.forall_mem_nil _⟩
  rcases List.mem_append.mp h with h | h
  · exact hprobed offset h
  · obtain ⟨probed, hmem, rfl⟩ := List.mem_map.mp h
    obtain ⟨s, hs, rfl⟩ := hprobed probed hmem
    have hoffset := hday s hs
    rw [IsWithinDay] at hoffset
    exact ⟨_, by omega, rfl⟩

/-- **All that the search asks for is within a day of the wall seconds**, under the same
condition. -/
theorem near_of_mem_askedSeconds {wall s : Int}
    (hday : ∀ s, wall - secondsPerDay ≤ s ∧ s ≤ wall + secondsPerDay → IsWithinDay (z.utcOffset s))
    (hs : s ∈ z.askedSeconds wall) : wall - secondsPerDay ≤ s ∧ s ≤ wall + secondsPerDay := by
  rcases List.mem_append.mp hs with hs | hs
  · simp only [List.mem_cons, List.not_mem_nil, or_false] at hs
    rw [secondsPerDay] at *
    omega
  · obtain ⟨offset, hoffset, rfl⟩ := List.mem_map.mp hs
    obtain ⟨t, ht, rfl⟩ := exists_near_of_mem_possibleOffsets hday hoffset
    have hoffset := hday t ht
    rw [IsWithinDay] at hoffset
    omega

/-- Whatever the search finds can be read, and shows the wall time. -/
theorem tellWall_of_mem_search {found : List Instant} (h : z.search w = .ok found)
    (hi : i ∈ found) : z.tellWall i = .ok (w, z.state i.seconds) := by
  obtain ⟨htellable, rfl⟩ := search_eq_ok_iff.mp h
  obtain ⟨hshows, -⟩ := mem_candidates_iff.mp hi
  have hw := (shows_iff.mp hshows).1
  refine tellWall_eq_ok_iff.mpr ⟨htellable hw _ (seconds_mem_askedSeconds hi), ?_⟩
  exact Prod.ext hshows.symm rfl

/-- What is found is resolved to the first of it. -/
theorem resolve_of_search_cons {i : Instant} {rest : List Instant}
    (h : z.search w = .ok (i :: rest)) (offset : Offset) (strict : Bool) :
    z.resolve offset strict w = .ok i := by
  rw [resolve, h]
  rfl

/-- Where nothing is found, the caller may insist on an instant, or not. -/
theorem resolve_of_search_nil (h : z.search w = .ok []) (offset : Offset) (strict : Bool) :
    z.resolve offset strict w =
      .error (if strict then .unmatched w offset else .unresolved w offset) := by
  rw [resolve, h]
  rfl

/-- Where the search is refused, so is the caller, whether he insists or not. -/
theorem resolve_of_search_error {failure : Failure} (h : z.search w = .error failure)
    (offset : Offset) (strict : Bool) : z.resolve offset strict w = .error failure := by
  rw [resolve, h]
  rfl

/-- **A wall time is resolved to the first of its candidates.** -/
theorem resolve_eq_ok_iff {offset : Offset} {strict : Bool} :
    z.resolve offset strict w = .ok i ↔
      ∃ found, z.search w = .ok found ∧ i ∈ found ∧ ∀ j ∈ found, i ≤ j := by
  rw [resolve, Failure.bind_eq_ok_iff]
  refine exists_congr fun found => and_congr_right fun hsearch => ?_
  obtain ⟨-, rfl⟩ := search_eq_ok_iff.mp hsearch
  rw [← Instant.head?_eq_some_iff_of_pairwise (pairwise_candidates z w)]
  cases z.candidates w with
  | nil => exact ⟨nofun, nofun⟩
  | cons first rest => exact ⟨fun h => congrArg some (Except.ok.inj h),
      fun h => congrArg Except.ok (Option.some.inj h)⟩

end Zone

end CivilTime
