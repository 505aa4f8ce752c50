import CivilTime.Proofs.Timeline
import CivilTime.Zone

/-!
# How often clocks are set

Between two seconds at which a zone has different offsets, its clocks have been set
(`CivilTime.Zone.exists_mem_changes`). Where they are not set again within a **gap**
(`CivilTime.Zone.ChangesApart`), a stretch of time no longer than the gap has one change at
most, so that the offset at any of its seconds is that of one of its ends
(`CivilTime.Zone.ChangesApart.utcOffset_eq_or`). This is all that the search for instants
needs to know about a zone, and it makes no difference whether a change is one of the zone's
own or comes from the seconds beyond the look-up, which are answered a cycle nearer.

The simplest region with a change is
`CivilTime.Zone.setOnce`, and the change is its only one (`CivilTime.Zone.changes_setOnce`).
-/

namespace CivilTime

namespace Zone

/-- A region whose states can all be told is told at every second. -/
theorem isTellable_region {t : Timeline} (h : ∀ state ∈ t.states, state.IsTellable) (s : Int) :
    ((region t).state s).IsTellable :=
  h _ (t.stateAt_mem _)

/-- A region whose states are all less than a day away from Universal Time is so at every
second. -/
theorem isWithinDay_region {t : Timeline} (h : ∀ state ∈ t.states, IsWithinDay state.utcOffset)
    (s : Int) : IsWithinDay ((region t).utcOffset s) :=
  h _ (t.stateAt_mem _)

/-! ### Changes -/

variable {z : Zone}

/-- The **changes** of a zone: the seconds at which its clocks are set, so that they have
another offset than a second before. -/
def changes (z : Zone) : Set Int :=
  {t | z.utcOffset (t - 1) ≠ z.utcOffset t}

/-- **Changes apart**: any two changes during some time are at least a gap apart. -/
def ChangesApart (z : Zone) (gap : Int) (during : Set Int) : Prop :=
  (z.changes ∩ during).Pairwise fun t t' => gap ≤ |t' - t|

/-- Changes that are apart are so by less, and during less. -/
theorem ChangesApart.mono {gap gap' : Int} {during during' : Set Int}
    (h : z.ChangesApart gap during) (hgap : gap' ≤ gap) (hsub : during' ⊆ during) :
    z.ChangesApart gap' during' :=
  fun _ ht _ ht' hne => hgap.trans (h ⟨ht.1, hsub ht.2⟩ ⟨ht'.1, hsub ht'.2⟩ hne)

/-- Between two different offsets there is a change. -/
theorem exists_mem_changes {a b : Int} (hab : a ≤ b) (hne : z.utcOffset a ≠ z.utcOffset b) :
    ∃ t ∈ z.changes, a < t ∧ t ≤ b := by
  induction b, hab using Int.leInduction with
  | base => exact absurd rfl hne
  | succ b hab ih =>
    by_cases hb : z.utcOffset a = z.utcOffset b
    · refine ⟨b + 1, ?_, by omega, le_refl _⟩
      rw [changes, Set.mem_ofPred_eq, add_sub_cancel_right, ← hb]
      exact hne
    · obtain ⟨t, ht, hat, htb⟩ := ih hb
      exact ⟨t, ht, hat, by omega⟩

/-- **In a stretch of time that is no longer than the gap, clocks are set once at most**: the
offset in between is that of the start or that of the end. -/
theorem ChangesApart.utcOffset_eq_or {gap a b c : Int}
    (h : z.ChangesApart gap (Set.Ioc a c)) (hab : a ≤ b) (hbc : b ≤ c) (hgap : c - a ≤ gap) :
    z.utcOffset b = z.utcOffset a ∨ z.utcOffset b = z.utcOffset c := by
  by_contra hcon
  -- otherwise there is a change on either side of the second, and two are too many
  obtain ⟨hstart, hend⟩ := not_or.mp hcon
  obtain ⟨t, ht, hat, htb⟩ := exists_mem_changes hab (Ne.symm hstart)
  obtain ⟨t', ht', hbt', ht'c⟩ := exists_mem_changes hbc hend
  have hapart : gap ≤ |t' - t| :=
    h ⟨ht, hat, by omega⟩ ⟨ht', by omega, ht'c⟩ (by omega)
  rw [abs_of_pos (by omega)] at hapart
  omega

/-! ### A zone with one change -/

/-- The region whose clocks are set once. -/
def setOnce (before after : ZoneState) (since : Int) : Zone :=
  region { initial := before, transitions := [{ since, state := after }] }

/-- Where the change is more than a cycle inside the look-up, the seconds beyond the look-up
are answered as if they had been looked up. -/
theorem utcOffset_setOnce {before after : ZoneState} {since : Int}
    (hmin : lookupMin + cycleSeconds ≤ since) (hmax : since ≤ lookupMax - cycleSeconds) (s : Int) :
    (setOnce before after since).utcOffset s =
      if since ≤ s then after.utcOffset else before.utcOffset := by
  have hshift : since ≤ s + cycleShift s ↔ since ≤ s := by
    rw [lookupMin_eq, cycleSeconds_eq] at hmin
    rw [lookupMax_eq, cycleSeconds_eq] at hmax
    rw [cycleShift, lookupMin_eq, lookupMax_eq, cycleSeconds_eq]
    split_ifs <;> omega
  have hstate : (setOnce before after since).state s =
      if since ≤ s + cycleShift s then after else before := rfl
  rw [utcOffset, hstate, apply_ite ZoneState.utcOffset]
  simp only [hshift]

/-- **Clocks that are set once have one change.** -/
theorem changes_setOnce {before after : ZoneState} {since : Int}
    (hmin : lookupMin + cycleSeconds ≤ since) (hmax : since ≤ lookupMax - cycleSeconds) :
    (setOnce before after since).changes ⊆ {since} := by
  intro t ht
  rw [changes, Set.mem_ofPred_eq, utcOffset_setOnce hmin hmax, utcOffset_setOnce hmin hmax] at ht
  by_contra hne
  have hsides : since ≤ t - 1 ↔ since ≤ t := by
    rw [Set.mem_singleton_iff] at hne
    omega
  simp only [hsides, ne_eq, not_true_eq_false] at ht

theorem changesApart_setOnce {before after : ZoneState} {since : Int}
    (hmin : lookupMin + cycleSeconds ≤ since) (hmax : since ≤ lookupMax - cycleSeconds)
    (gap : Int) (during : Set Int) : (setOnce before after since).ChangesApart gap during :=
  Set.Pairwise.mono (Set.inter_subset_left.trans (changes_setOnce hmin hmax))
    (Set.pairwise_singleton _ _)

end Zone

end CivilTime
