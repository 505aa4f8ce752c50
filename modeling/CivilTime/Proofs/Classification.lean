import CivilTime.Proofs.Completeness
import CivilTime.Proofs.Tellable

/-!
# Wall times around a change of the clocks

When the clocks are put ahead they **skip** some wall times, and when they are put back they
**repeat** some. Which ones is told by the two offsets alone, if the clocks are set on their own:
left alone for two days before and for two days after (`CivilTime.Zone.IsSetAlone`). Until they are
set the clocks have shown everything up to `since + before`, and then they show everything from
`since + after` on.

| wall seconds | instants |
|---|---|
| from `since + before` up to `since + after`: skipped | none |
| from `since + after` up to `since + before`: repeated | one on either side of the change |
| any others, a day or less away from `since` | one |

The search knows nothing of this, and asks for offsets up to a day away from the wall seconds. All
of these seconds lie within the two days on either side, so that it is answered
(`CivilTime.Zone.IsSetAlone.search_eq`), and one of the probes is always on the side that is needed
(`CivilTime.Zone.IsSetAlone.mem_candidates_iff`).
-/

namespace CivilTime

/-- **The instant of a wall time under an offset**: the one that shows it if that offset is in force
there. -/
def WallTime.instantUnder (w : WallTime) (offset : Int) : Instant :=
  { seconds := w.toSeconds - offset, nanoseconds := w.nanoseconds }

namespace Zone

variable {z : Zone} {since before after wall s : Int} {w : WallTime}

/-- **The instant under an offset is a candidate** if the offset is in force there and is found by
one of the probes. -/
theorem instantUnder_mem_candidates {offset : Int} (hw : w.IsShowable)
    (hforce : z.utcOffset (w.toSeconds - offset) = offset)
    (hprobed : offset ∈ z.probedOffsets w.toSeconds) :
    w.instantUnder offset ∈ z.candidates w := by
  have hinstant : z.utcOffset (w.instantUnder offset).seconds = offset := hforce
  refine mem_candidates_iff.mpr ⟨shows_iff.mpr ⟨hw, rfl, ?_⟩, ?_⟩
  · rw [hinstant]
    exact sub_add_cancel _ _
  · rw [hinstant]
    exact List.mem_append_left _ hprobed

/-! ### A change on its own -/

/-- A zone **tells an offset** at a second. -/
def TellsOffset (z : Zone) (s offset : Int) : Prop :=
  ∃ state, z.tell s = .ok state ∧ state.utcOffset = offset

theorem tellsOffset_iff {offset : Int} :
    z.TellsOffset s offset ↔ (z.state s).IsTellable ∧ z.utcOffset s = offset := by
  rw [TellsOffset]
  simp only [tell_eq_ok_iff, and_assoc, exists_and_left, exists_eq_left]
  exact Iff.rfl

/-- **Clocks that are set on their own** from one offset to another: for two days they have shown
the one when they are set, and they show the other for two days more. All of this is told. -/
structure IsSetAlone (z : Zone) (since before after : Int) : Prop where
  tells_before : ∀ s, since - 2 * secondsPerDay ≤ s → s < since → z.TellsOffset s before
  tells_after : ∀ s, since ≤ s → s ≤ since + 2 * secondsPerDay → z.TellsOffset s after

/-- Wall seconds **near** a second: a day away, or less. -/
def IsNear (wall since : Int) : Prop :=
  since - secondsPerDay ≤ wall ∧ wall ≤ since + secondsPerDay

instance (wall since : Int) : Decidable (IsNear wall since) :=
  inferInstanceAs (Decidable (_ ∧ _))

namespace IsSetAlone

theorem isTellable (h : z.IsSetAlone since before after)
    (hs : since - 2 * secondsPerDay ≤ s ∧ s ≤ since + 2 * secondsPerDay) :
    (z.state s).IsTellable := by
  rcases lt_or_ge s since with hlt | hge
  · exact (tellsOffset_iff.mp (h.tells_before s hs.1 hlt)).1
  · exact (tellsOffset_iff.mp (h.tells_after s hge hs.2)).1

theorem utcOffset_eq (h : z.IsSetAlone since before after)
    (hs : since - 2 * secondsPerDay ≤ s ∧ s ≤ since + 2 * secondsPerDay) :
    z.utcOffset s = if s < since then before else after := by
  split_ifs with hlt
  · exact (tellsOffset_iff.mp (h.tells_before s hs.1 hlt)).2
  · exact (tellsOffset_iff.mp (h.tells_after s (not_lt.mp hlt) hs.2)).2

theorem isWithinDay_before (h : z.IsSetAlone since before after) : IsWithinDay before := by
  have hs : since - 2 * secondsPerDay ≤ since - 1 := by
    rw [secondsPerDay]
    omega
  obtain ⟨htellable, rfl⟩ := tellsOffset_iff.mp (h.tells_before (since - 1) hs (by omega))
  exact htellable.1

theorem isWithinDay_after (h : z.IsSetAlone since before after) : IsWithinDay after := by
  have hs : since ≤ since + 2 * secondsPerDay := by
    rw [secondsPerDay]
    omega
  obtain ⟨htellable, rfl⟩ := tellsOffset_iff.mp (h.tells_after since le_rfl hs)
  exact htellable.1

/-! ### The instants of a wall time -/

/-- Within a day of wall seconds near the change, everything is told. -/
theorem isTellable_of_isNear (h : z.IsSetAlone since before after) (hnear : IsNear wall since)
    (hs : wall - secondsPerDay ≤ s ∧ s ≤ wall + secondsPerDay) : (z.state s).IsTellable := by
  rw [IsNear] at hnear
  exact h.isTellable (by omega)

/-- **The search is answered** wherever it asks, for a wall time near the change. -/
theorem search_eq (h : z.IsSetAlone since before after) (hnear : IsNear w.toSeconds since) :
    z.search w = .ok (z.candidates w) := by
  refine search_eq_ok_iff.mpr ⟨fun _ s hs => h.isTellable_of_isNear hnear ?_, rfl⟩
  exact near_of_mem_askedSeconds (fun s hs => (h.isTellable_of_isNear hnear hs).1) hs

/-- **A wall time near the change has an instant under either offset**, if that is on the side of
the change where the offset is in force; and it has no other candidates. -/
theorem mem_candidates_iff (h : z.IsSetAlone since before after) (hw : w.IsShowable)
    (hnear : IsNear w.toSeconds since) {i : Instant} :
    i ∈ z.candidates w ↔
      i = w.instantUnder before ∧ w.toSeconds < since + before ∨
        i = w.instantUnder after ∧ since + after ≤ w.toSeconds := by
  have hday := fun s hs => (h.isTellable_of_isNear (s := s) hnear hs).1
  obtain ⟨hbefore, hbefore'⟩ := h.isWithinDay_before
  obtain ⟨hafter, hafter'⟩ := h.isWithinDay_after
  rw [IsNear] at hnear
  constructor
  · intro hi
    have hs := near_of_mem_askedSeconds hday (seconds_mem_askedSeconds hi)
    obtain ⟨-, hnano, hwall⟩ := shows_iff.mp (Zone.mem_candidates_iff.mp hi).1
    rw [h.utcOffset_eq (by omega)] at hwall
    rw [Instant.eq_iff, Instant.eq_iff]
    dsimp only [WallTime.instantUnder]
    split_ifs at hwall with hlt
    · exact Or.inl ⟨⟨by omega, hnano⟩, by omega⟩
    · exact Or.inr ⟨⟨by omega, hnano⟩, by omega⟩
  · -- the probe that is a day away on the same side of the change finds the offset
    rintro (⟨rfl, hlt⟩ | ⟨rfl, hle⟩)
    · have hprobe : z.utcOffset (w.toSeconds - secondsPerDay) = before := by
        rw [h.utcOffset_eq (by omega), if_pos (by omega)]
      refine instantUnder_mem_candidates hw ?_ (by simp [probedOffsets, hprobe])
      rw [h.utcOffset_eq (by omega), if_pos (by omega)]
    · have hprobe : z.utcOffset (w.toSeconds + secondsPerDay) = after := by
        rw [h.utcOffset_eq (by omega), if_neg (by omega)]
      refine instantUnder_mem_candidates hw ?_ (by simp [probedOffsets, hprobe])
      rw [h.utcOffset_eq (by omega), if_neg (by omega)]

/-- **The candidates of a wall time near the change**: none, one or both of its instants under the
two offsets. -/
theorem candidates_eq (h : z.IsSetAlone since before after) (hw : w.IsShowable)
    (hnear : IsNear w.toSeconds since) :
    z.candidates w =
      (if w.toSeconds < since + before then [w.instantUnder before] else []) ++
        if since + after ≤ w.toSeconds then [w.instantUnder after] else [] := by
  -- both lists are strictly in order, so it is enough that they have the same members
  refine (pairwise_candidates z w).eq_of_mem_iff ?_ fun i => ?_
  · split_ifs with hlt hle hle
    · -- the wall time is shown on both sides of the change
      have hsides : w.instantUnder before < w.instantUnder after := by
        rw [Instant.lt_iff]
        dsimp only [WallTime.instantUnder]
        omega
      exact List.pairwise_pair.mpr hsides
    · exact List.pairwise_singleton _ _
    · exact List.pairwise_singleton _ _
    · exact List.Pairwise.nil
  · rw [h.mem_candidates_iff hw hnear]
    simp only [List.mem_append, List.mem_ite_nil_right, List.mem_singleton, and_comm]

end IsSetAlone

/-! ### What becomes of a wall time -/

/-- **Around a change on its own, every wall time is skipped, repeated or plain.** A wall time that
the clocks skip when they are put ahead has no instant, and is not resolved: it is told as it is, or
as the cause of a defect if the caller has insisted. One that they show again when they are put back
has two instants, one on either side of the change, and is resolved to the one before it. Any other
wall time near the change has one instant, and is resolved to that. -/
theorem search_around_change (h : z.IsSetAlone since before after) (hw : w.IsShowable)
    (hnear : IsNear w.toSeconds since) (offset : Offset) :
    (since + before ≤ w.toSeconds ∧ w.toSeconds < since + after →
      z.search w = .ok [] ∧
        z.resolve offset false w = .error (.unresolved w offset) ∧
        ∃ failure, z.resolve offset true w = .error failure ∧ .runtime ∈ failure.categories ∧
          failure.cause? = some (.unresolved w offset)) ∧
      (since + after ≤ w.toSeconds ∧ w.toSeconds < since + before →
        z.search w = .ok [w.instantUnder before, w.instantUnder after] ∧
          (w.instantUnder before).seconds < since ∧ since ≤ (w.instantUnder after).seconds ∧
          ∀ strict, z.resolve offset strict w = .ok (w.instantUnder before)) ∧
      (¬(since + before ≤ w.toSeconds ∧ w.toSeconds < since + after) →
        ¬(since + after ≤ w.toSeconds ∧ w.toSeconds < since + before) →
        ∃ i, z.search w = .ok [i] ∧ ∀ strict, z.resolve offset strict w = .ok i) := by
  have hsearch := h.search_eq hnear
  rw [h.candidates_eq hw hnear] at hsearch
  refine ⟨fun hskipped => ?_, fun hrepeated => ?_, fun hskipped hrepeated => ?_⟩
  · rw [if_neg (by omega), if_neg (by omega)] at hsearch
    exact ⟨hsearch, resolve_of_search_nil hsearch offset false, _,
      resolve_of_search_nil hsearch offset true, List.mem_cons_self, rfl⟩
  · rw [if_pos (by omega), if_pos (by omega)] at hsearch
    refine ⟨hsearch, ?_, ?_, resolve_of_search_cons hsearch offset⟩
    · dsimp only [WallTime.instantUnder]
      omega
    · dsimp only [WallTime.instantUnder]
      omega
  · rcases lt_or_ge w.toSeconds (since + before) with hlt | hge
    · rw [if_pos hlt, if_neg (by omega)] at hsearch
      exact ⟨_, hsearch, resolve_of_search_cons hsearch offset⟩
    · rw [if_neg (by omega), if_pos (by omega)] at hsearch
      exact ⟨_, hsearch, resolve_of_search_cons hsearch offset⟩

/-- Clocks that are set once are set on their own. -/
theorem isSetAlone_setOnce {before after : ZoneState} (hbefore : before.IsTellable)
    (hafter : after.IsTellable) (hmin : lookupMin + cycleSeconds ≤ since)
    (hmax : since ≤ lookupMax - cycleSeconds) :
    (setOnce before after since).IsSetAlone since before.utcOffset after.utcOffset := by
  have htellable : ∀ s, ((setOnce before after since).state s).IsTellable :=
    isTellable_region (List.forall_mem_cons.mpr ⟨hbefore, List.forall_mem_singleton.mpr hafter⟩)
  refine ⟨fun s _ hlt => tellsOffset_iff.mpr ⟨htellable s, ?_⟩,
    fun s hge _ => tellsOffset_iff.mpr ⟨htellable s, ?_⟩⟩
  · rw [utcOffset_setOnce hmin hmax, if_neg (not_le.mpr hlt)]
  · rw [utcOffset_setOnce hmin hmax, if_pos hge]

/-- The night when the clocks are put back: one o'clock is the first second that comes twice, and
two o'clock the first one after it that comes once. -/
theorem search_around_change_putBack :
    putBack.IsSetAlone 1667714400 (-14400) (-18000) ∧
      putBack.search { year := 2022, month := 11, day := 6, hour := 1 } =
        .ok [{ seconds := 1667710800 }, { seconds := 1667714400 }] ∧
      putBack.resolve .localZone true { year := 2022, month := 11, day := 6, hour := 1 } =
        .ok { seconds := 1667710800 } ∧
      ∃ i, putBack.search { year := 2022, month := 11, day := 6, hour := 2 } = .ok [i] := by
  have h : putBack.IsSetAlone 1667714400 (-14400) (-18000) :=
    isSetAlone_setOnce (by decide) (by decide) (by decide) (by decide)
  have hone := (search_around_change h (w := { year := 2022, month := 11, day := 6, hour := 1 })
    (by decide) (by decide) .localZone).2.1 (by decide)
  have htwo := (search_around_change h (w := { year := 2022, month := 11, day := 6, hour := 2 })
    (by decide) (by decide) .localZone).2.2 (by decide) (by decide)
  obtain ⟨i, hi, -⟩ := htwo
  exact ⟨h, hone.1, hone.2.2.2 true, i, hi⟩

end Zone

end CivilTime
