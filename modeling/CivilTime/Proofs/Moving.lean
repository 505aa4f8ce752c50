import CivilTime.Proofs.Reachable

/-!
# Times moved and shown elsewhere, again and again

A run of changes takes a time from one to the next, as long as each of them can be made
(`CivilTime.Time.changeAll`). What it leads to is **known beforehand**: the moves add up whatever is
done between them, and the last offset is the one that stays (`CivilTime.Time.after`).

So it makes no difference how the moves stand among the offsets, and in which order, except in one
respect. Each move is checked where it leads to, and a run **can be made** if all sums on the way
are within the bounds, from that of no moves at all, and all offsets have zones
(`CivilTime.Time.CanBeMade`). A run that cannot be made stops at the first change that is to blame
(`CivilTime.Time.StopsBy`), and fails as that change alone would fail
(`CivilTime.Time.Change.FailsBy`).

| | one change | a run |
|---|---|---|
| succeeds | `CivilTime.Time.Change.apply_eq_ok_iff` | `CivilTime.Time.changeAll_eq_ok_iff` |
| fails | `CivilTime.Time.Change.apply_eq_error_iff` | `CivilTime.Time.changeAll_eq_error_iff` |

A run is taken apart at its first change, and what is left is a run from another time. That is
possible because a change that can be made leaves the time within the bounds
(`CivilTime.Time.canBeMade_cons_iff`).
-/

namespace CivilTime

namespace Time

/-- A count of seconds **within the bounds** of a time. -/
def IsWithinBounds (seconds : Int) : Prop :=
  minSeconds ≤ seconds ∧ seconds ≤ maxSeconds

instance (seconds : Int) : Decidable (IsWithinBounds seconds) :=
  inferInstanceAs (Decidable (_ ∧ _))

/-! ### What a change asks for -/

namespace Change

/-- By how many seconds a change **moves** a time on, if it does so. -/
def seconds? : Change → Option Int
  | add (.integer n) => some n
  | sub (.integer n) => some (-n)
  | _ => none

/-- In which offset a change **shows** a time, if it does so. -/
def target? : Change → Option Offset
  | withOffset offset => some offset
  | toUtc => some .utc
  | toLocal => some .localZone
  | add _ | sub _ => none

end Change

/-- The seconds of all moves of a run, added up. -/
def moved (changes : List Change) : Int :=
  (changes.filterMap Change.seconds?).sum

/-- The last offset that a run shows a time in, or else the one it was shown in before. -/
def lastOffset (offset : Offset) (changes : List Change) : Offset :=
  ((changes.filterMap Change.target?).getLast?).getD offset

/-- **The time after a run** of changes, if the run can be made. -/
def after (t : Time) (changes : List Change) : Time where
  instant := { t.instant with seconds := t.instant.seconds + moved changes }
  offset := lastOffset t.offset changes
  catalog := t.catalog

/-- **A run that can be made**: the sums of its moves keep within the bounds, from no moves to all
of them, its offsets have zones, and each of its changes moves the time by an integer or shows it
in an offset. -/
structure CanBeMade (t : Time) (changes : List Change) : Prop where
  bounds : ∀ before, before <+: changes → IsWithinBounds (t.instant.seconds + moved before)
  zones : ∀ change ∈ changes, ∀ offset, change.target? = some offset →
    ∃ zone, t.catalog.zone offset = .ok zone
  integers : ∀ change ∈ changes, change.seconds? = none → change.target? ≠ none

/-- **Why a change cannot be made**: it moves the time beyond the bounds, shows it in a zone that
its catalog does not have, or is given something else than an integer. -/
inductive Change.FailsBy (t : Time) (change : Change) : Failure → Prop
  | beyond {n : Int} (hmoves : change.seconds? = some n)
      (hbeyond : ¬IsWithinBounds (t.instant.seconds + n)) :
      FailsBy t change (.componentRange "seconds" (t.instant.seconds + n))
  | noZone {key : String} (hshows : change.target? = some (.named key))
      (hnone : t.catalog.zones.lookup key = none) :
      FailsBy t change (.zoneNotFound key Catalog.unknownZone)
  | noInteger (hmoves : change.seconds? = none) (hshows : change.target? = none) :
      FailsBy t change .wrongType

/-- **A run that stops**: what is before one of its changes can be made, and then that change
fails. -/
def StopsBy (t : Time) (changes : List Change) (failure : Failure) : Prop :=
  ∃ before change rest, changes = before ++ change :: rest ∧ CanBeMade t before ∧
    change.FailsBy (t.after before) failure

/-- **Making one change after another.** -/
def changeAll (t : Time) (changes : List Change) : Except Failure Time :=
  changes.foldlM Change.apply t

variable {t t' : Time} {change : Change} {changes rest : List Change} {offset : Offset} {n : Int}
  {failure : Failure}

/-! ### One change -/

namespace Change

/-- A change that moves a time does not show it elsewhere. -/
theorem target?_of_seconds? (h : change.seconds? = some n) : change.target? = none := by
  cases change with
  | add | sub => rfl
  | withOffset | toUtc | toLocal => cases h

theorem apply_of_seconds? (h : change.seconds? = some n) : change.apply t = t.shift n := by
  cases change with
  | add a | sub a =>
    cases a with
    | integer m =>
      obtain rfl := Option.some.inj h
      rfl
    | nil | boolean | float | fraction | text | index | other | faulty => cases h
  | withOffset | toUtc | toLocal => cases h

theorem apply_of_target? (h : change.target? = some offset) :
    change.apply t = t.withOffset offset := by
  cases change with
  | add | sub => cases h
  | withOffset | toUtc | toLocal =>
    obtain rfl := Option.some.inj h
    rfl

theorem apply_of_none (hmoves : change.seconds? = none) (hshows : change.target? = none) :
    change.apply t = .error .wrongType := by
  cases change with
  | add a | sub a =>
    cases a with
    | integer => cases hmoves
    | nil | boolean | float | fraction | text | index | other | faulty => rfl
  | withOffset | toUtc | toLocal => cases hshows

end Change

theorem moved_cons (change : Change) (changes : List Change) :
    moved (change :: changes) = change.seconds?.getD 0 + moved changes := by
  rw [moved, moved, List.filterMap_cons]
  cases change.seconds? with
  | none => exact (Int.zero_add _).symm
  | some n => exact List.sum_cons

theorem lastOffset_cons (offset : Offset) (change : Change) (changes : List Change) :
    lastOffset offset (change :: changes) = lastOffset (change.target?.getD offset) changes := by
  rw [lastOffset, lastOffset, List.filterMap_cons]
  cases change.target? with
  | none => rfl
  | some target => exact congrArg (Option.getD · offset) List.getLast?_cons

/-- Nothing comes of no changes. -/
theorem after_nil (t : Time) : t.after [] = t := by
  have hmoved : t.instant.seconds + moved [] = t.instant.seconds := Int.add_zero _
  rw [after, hmoved]
  rfl

/-- **What comes of a run** comes of its first change and then of the rest. -/
theorem after_cons (t : Time) (change : Change) (rest : List Change) :
    t.after (change :: rest) = (t.after [change]).after rest := by
  have hone : moved [change] = change.seconds?.getD 0 :=
    (moved_cons change []).trans (Int.add_zero _)
  have hmoved : t.instant.seconds + moved (change :: rest) =
      t.instant.seconds + moved [change] + moved rest := by
    rw [moved_cons, hone, Int.add_assoc]
  have hoffset : lastOffset t.offset (change :: rest) =
      lastOffset (lastOffset t.offset [change]) rest := by
    rw [lastOffset_cons, lastOffset_cons]
    rfl
  rw [after, hmoved, hoffset]
  rfl

/-- A move that leads beyond the bounds is refused, and the failure tells where it leads to. -/
theorem shift_eq_error_iff :
    t.shift n = .error failure ↔ ¬IsWithinBounds (t.instant.seconds + n) ∧
      failure = .componentRange "seconds" (t.instant.seconds + n) := by
  rw [shift, Failure.bind_eq_error_iff]
  refine Iff.trans (or_iff_left ?_) Failure.ite_eq_error_iff
  rintro ⟨s, -, hmade⟩
  cases hmade

/-- Only a zone that the catalog does not have keeps a time from being shown in it. -/
theorem withOffset_eq_error_iff :
    t.withOffset offset = .error failure ↔ ∃ key, offset = .named key ∧
      t.catalog.zones.lookup key = none ∧ failure = .zoneNotFound key Catalog.unknownZone := by
  rw [withOffset, Failure.bind_eq_error_iff, Catalog.zone_eq_error_iff]
  refine or_iff_left ?_
  rintro ⟨zone, -, hmade⟩
  cases hmade

namespace Change

/-- A change that moves a time fails where that leads beyond the bounds. -/
theorem failsBy_of_seconds? (h : change.seconds? = some n) :
    change.FailsBy t failure ↔ ¬IsWithinBounds (t.instant.seconds + n) ∧
      failure = .componentRange "seconds" (t.instant.seconds + n) := by
  constructor
  · rintro (⟨hmoves, hbeyond⟩ | ⟨hshows, -⟩ | ⟨hmoves, -⟩)
    · obtain rfl := Option.some.inj (h.symm.trans hmoves)
      exact ⟨hbeyond, rfl⟩
    · exact absurd ((target?_of_seconds? h).symm.trans hshows) nofun
    · exact absurd (h.symm.trans hmoves) nofun
  · rintro ⟨hbeyond, rfl⟩
    exact .beyond h hbeyond

/-- A change that shows a time elsewhere fails where there is no zone for it. -/
theorem failsBy_of_target? (hmoves : change.seconds? = none) (h : change.target? = some offset) :
    change.FailsBy t failure ↔ ∃ key, offset = .named key ∧ t.catalog.zones.lookup key = none ∧
      failure = .zoneNotFound key Catalog.unknownZone := by
  constructor
  · rintro (⟨hmoves', -⟩ | ⟨hshows, hnone⟩ | ⟨-, hshows⟩)
    · exact absurd (hmoves.symm.trans hmoves') nofun
    · exact ⟨_, Option.some.inj (h.symm.trans hshows), hnone, rfl⟩
    · exact absurd (h.symm.trans hshows) nofun
  · rintro ⟨key, rfl, hnone, rfl⟩
    exact .noZone h hnone

/-- A change that does neither fails. -/
theorem failsBy_of_none (hmoves : change.seconds? = none) (hshows : change.target? = none) :
    change.FailsBy t failure ↔ failure = .wrongType := by
  constructor
  · rintro (⟨hmoves', -⟩ | ⟨hshows', -⟩ | ⟨-, -⟩)
    · exact absurd (hmoves.symm.trans hmoves') nofun
    · exact absurd (hshows.symm.trans hshows') nofun
    · rfl
  · rintro rfl
    exact .noInteger hmoves hshows

/-- **How a change fails.** -/
theorem apply_eq_error_iff : change.apply t = .error failure ↔ change.FailsBy t failure := by
  cases hmoves : change.seconds? with
  | some n => rw [apply_of_seconds? hmoves, shift_eq_error_iff, failsBy_of_seconds? hmoves]
  | none =>
    cases hshows : change.target? with
    | some offset =>
      rw [apply_of_target? hshows, withOffset_eq_error_iff, failsBy_of_target? hmoves hshows]
    | none =>
      rw [apply_of_none hmoves hshows, failsBy_of_none hmoves hshows, Except.error.injEq, eq_comm]

end Change

/-! ### Runs that can be made -/

/-- The start of a run that can be made can be made. -/
theorem CanBeMade.of_prefix {before : List Change} (h : CanBeMade t changes)
    (hbefore : before <+: changes) : CanBeMade t before where
  bounds first hfirst := h.bounds first (hfirst.trans hbefore)
  zones change hchange := h.zones change (hbefore.subset hchange)
  integers change hchange := h.integers change (hbefore.subset hchange)

/-- A time within the bounds can be left as it is. -/
theorem canBeMade_nil (h : IsWithinBounds t.instant.seconds) : CanBeMade t [] where
  bounds before hbefore := by
    obtain rfl := List.prefix_nil.mp hbefore
    exact (congrArg IsWithinBounds (Int.add_zero _)).mpr h
  zones _ hchange := absurd hchange List.not_mem_nil
  integers _ hchange := absurd hchange List.not_mem_nil

/-- **A run can be made** if its first change can, and then the rest of what comes of that. -/
theorem canBeMade_cons_iff :
    CanBeMade t (change :: rest) ↔ CanBeMade t [change] ∧ CanBeMade (t.after [change]) rest := by
  -- the sums of the rest, from where the first change leads, are sums of the run
  have hseconds : ∀ before, (t.after [change]).instant.seconds + moved before =
      t.instant.seconds + moved (change :: before) := fun before =>
    congrArg (fun t : Time => t.instant.seconds) (after_cons t change before).symm
  constructor
  · intro h
    refine ⟨h.of_prefix (List.prefix_append [change] rest), fun before hbefore => ?_, ?_, ?_⟩
    · rw [hseconds]
      exact h.bounds _ (List.cons_prefix_cons.mpr ⟨rfl, hbefore⟩)
    · exact fun later hlater => h.zones later (List.mem_cons_of_mem _ hlater)
    · exact fun later hlater => h.integers later (List.mem_cons_of_mem _ hlater)
  · rintro ⟨hfirst, hrest⟩
    refine ⟨fun before hbefore => ?_, ?_, ?_⟩
    · rcases List.prefix_cons_iff.mp hbefore with rfl | ⟨tail, rfl, htail⟩
      · exact hfirst.bounds [] List.nil_prefix
      · rw [← hseconds]
        exact hrest.bounds tail htail
    · exact List.forall_mem_cons.mpr ⟨hfirst.zones change (List.mem_singleton_self _), hrest.zones⟩
    · exact List.forall_mem_cons.mpr
        ⟨hfirst.integers change (List.mem_singleton_self _), hrest.integers⟩

/-- **One change can be made** if it leads to within the bounds, or to an offset that has a zone. -/
theorem canBeMade_singleton_iff (h : IsWithinBounds t.instant.seconds) :
    CanBeMade t [change] ↔ IsWithinBounds (t.instant.seconds + moved [change]) ∧
      (∀ offset, change.target? = some offset → ∃ zone, t.catalog.zone offset = .ok zone) ∧
        (change.seconds? = none → change.target? ≠ none) := by
  constructor
  · intro hmade
    have hmem : change ∈ [change] := List.mem_singleton_self _
    exact ⟨hmade.bounds _ List.prefix_rfl, hmade.zones _ hmem, hmade.integers _ hmem⟩
  · rintro ⟨hbounds, hzones, hintegers⟩
    refine ⟨fun before hbefore => ?_, List.forall_mem_singleton.mpr hzones,
      List.forall_mem_singleton.mpr hintegers⟩
    rcases List.prefix_cons_iff.mp hbefore with rfl | ⟨tail, rfl, htail⟩
    · exact (canBeMade_nil h).bounds [] List.nil_prefix
    · rwa [List.prefix_nil.mp htail]

/-- A run without changes does not stop. -/
theorem not_stopsBy_nil : ¬StopsBy t [] failure := by
  rintro ⟨before, change, rest, hsplit, -⟩
  exact absurd hsplit.symm (List.append_ne_nil_of_right_ne_nil _ (List.cons_ne_nil _ _))

/-- **A run stops** at its first change, or in the rest of what comes of that. -/
theorem stopsBy_cons_iff (h : IsWithinBounds t.instant.seconds) :
    StopsBy t (change :: rest) failure ↔
      change.FailsBy t failure ∨
        CanBeMade t [change] ∧ StopsBy (t.after [change]) rest failure := by
  constructor
  · rintro ⟨before, last, later, hsplit, hbefore, hfails⟩
    cases before with
    | nil =>
      obtain ⟨rfl, rfl⟩ := List.cons.inj hsplit
      rw [after_nil] at hfails
      exact Or.inl hfails
    | cons _ before =>
      obtain ⟨rfl, rfl⟩ := List.cons.inj hsplit
      obtain ⟨hfirst, hbefore⟩ := canBeMade_cons_iff.mp hbefore
      rw [after_cons] at hfails
      exact Or.inr ⟨hfirst, before, last, later, rfl, hbefore, hfails⟩
  · rintro (hfails | ⟨hfirst, before, last, later, rfl, hbefore, hfails⟩)
    · refine ⟨[], change, rest, rfl, canBeMade_nil h, ?_⟩
      rwa [after_nil]
    · refine ⟨change :: before, last, later, rfl, canBeMade_cons_iff.mpr ⟨hfirst, hbefore⟩, ?_⟩
      rwa [after_cons]

/-- **How a change succeeds.** -/
theorem Change.apply_eq_ok_iff (h : IsWithinBounds t.instant.seconds) :
    change.apply t = .ok t' ↔ CanBeMade t [change] ∧ t' = t.after [change] := by
  rw [canBeMade_singleton_iff h, after, lastOffset_cons, moved_cons]
  cases hmoves : change.seconds? with
  | some n =>
    have hmoved : (some n).getD 0 + moved [] = n := Int.add_zero n
    rw [apply_of_seconds? hmoves, shift_eq_ok_iff, target?_of_seconds? hmoves, hmoved]
    exact and_congr_left' (and_iff_left ⟨nofun, nofun⟩).symm
  | none =>
    have hmoved : t.instant.seconds + ((none : Option Int).getD 0 + moved []) = t.instant.seconds :=
      Int.add_zero _
    cases hshows : change.target? with
    | some offset =>
      rw [apply_of_target? hshows, withOffset_eq_ok_iff, hmoved]
      refine and_congr_left' ⟨fun hzone => ⟨h, ?_, nofun⟩, fun hmade => hmade.2.1 offset rfl⟩
      rintro _ ⟨⟩
      exact hzone
    | none =>
      rw [apply_of_none hmoves hshows]
      exact ⟨nofun, fun hmade => absurd rfl (hmade.1.2.2 rfl)⟩

/-- What a change makes is known beforehand, and so is whatever is said about it. -/
theorem Change.exists_apply_iff {p : Time → Prop} (h : IsWithinBounds t.instant.seconds) :
    (∃ next, change.apply t = .ok next ∧ p next) ↔
      CanBeMade t [change] ∧ p (t.after [change]) := by
  constructor
  · rintro ⟨next, hfirst, hnext⟩
    obtain ⟨hmade, rfl⟩ := (apply_eq_ok_iff h).mp hfirst
    exact ⟨hmade, hnext⟩
  · rintro ⟨hmade, hnext⟩
    exact ⟨_, (apply_eq_ok_iff h).mpr ⟨hmade, rfl⟩, hnext⟩

/-! ### Runs -/

theorem changeAll_cons (t : Time) (change : Change) (rest : List Change) :
    t.changeAll (change :: rest) = change.apply t >>= fun next => next.changeAll rest :=
  List.foldlM_cons

/-- **How a run succeeds**: it leads to what its changes come to. The induction needs of a time only
that it is within the bounds, and a change that can be made keeps it there. -/
theorem changeAll_eq_ok_iff (h : IsWithinBounds t.instant.seconds) :
    t.changeAll changes = .ok t' ↔ CanBeMade t changes ∧ t' = t.after changes := by
  induction changes generalizing t with
  | nil =>
    rw [after_nil]
    exact ⟨fun hrun => ⟨canBeMade_nil h, (Except.ok.inj hrun).symm⟩,
      fun hrun => congrArg Except.ok hrun.2.symm⟩
  | cons change rest ih =>
    rw [changeAll_cons, Failure.bind_eq_ok_iff, canBeMade_cons_iff, and_assoc,
      after_cons t change rest, Change.exists_apply_iff h]
    exact and_congr_right fun hmade => ih (hmade.bounds _ List.prefix_rfl)

/-- **How a run fails**: by the first change that cannot be made any more, as that one fails. -/
theorem changeAll_eq_error_iff (h : IsWithinBounds t.instant.seconds) :
    t.changeAll changes = .error failure ↔ StopsBy t changes failure := by
  induction changes generalizing t with
  | nil => exact iff_of_false nofun not_stopsBy_nil
  | cons change rest ih =>
    rw [changeAll_cons, Failure.bind_eq_error_iff, stopsBy_cons_iff h, Change.apply_eq_error_iff,
      Change.exists_apply_iff h]
    refine or_congr_right (and_congr_right fun hmade => ?_)
    exact ih (hmade.bounds _ List.prefix_rfl)

/-- What a run leads to can be made, too. -/
theorem Reachable.changeAll (ht : Reachable t) (hproper : ∀ change ∈ changes, change.IsProper)
    (h : t.changeAll changes = .ok t') : Reachable t' := by
  induction changes generalizing t with
  | nil =>
    obtain rfl := Except.ok.inj h
    exact ht
  | cons change rest ih =>
    obtain ⟨hchange, hrest⟩ := List.forall_mem_cons.mp hproper
    rw [changeAll_cons] at h
    obtain ⟨next, hfirst, hrun⟩ := Failure.bind_eq_ok_iff.mp h
    exact ih (ht.changed change hchange hfirst) hrest hrun

/-- **Moving and showing elsewhere compose.** If all sums on the way are within the bounds and all
offsets have zones, a run of changes moves a time by the sum of its moves and shows it in its last
offset, and the nanoseconds and the catalog stay. Otherwise the run fails at the first change that
is to blame: a move by the very count of seconds that is beyond the bounds, an offset by its
zone. -/
theorem changeAll_outcomes (ht : Reachable t) (hproper : ∀ change ∈ changes, change.IsProper) :
    (∀ t', t.changeAll changes = .ok t' ↔ CanBeMade t changes ∧ t' = t.after changes) ∧
      (∀ failure, t.changeAll changes = .error failure ↔ StopsBy t changes failure) ∧
      (CanBeMade t changes → Reachable (t.after changes)) := by
  have hbounds : IsWithinBounds t.instant.seconds := ht.isSound.seconds
  refine ⟨fun t' => changeAll_eq_ok_iff hbounds, fun failure => changeAll_eq_error_iff hbounds,
    fun hmade => ?_⟩
  exact ht.changeAll hproper ((changeAll_eq_ok_iff hbounds).mpr ⟨hmade, rfl⟩)

/-- The last second of all, a second back and shown in India, can be moved on by a second but not by
two, although the run goes back again after that. -/
theorem changeAll_outcomes_lastSecond :
    let t : Time := { instant := { seconds := maxSeconds, nanoseconds := 5 }, offset := .localZone,
                      catalog := { localZone := Zone.putBack } }
    let near : List Change := [.sub (.integer 1), .withOffset (.fixed 19800), .add (.integer 1)]
    let far : List Change :=
      [.sub (.integer 1), .withOffset (.fixed 19800), .add (.integer 2), .sub (.integer 9)]
    Reachable t ∧ (∀ change ∈ near, change.IsProper) ∧ CanBeMade t near ∧
      t.after near = { t with offset := .fixed 19800 } ∧
      Reachable { t with offset := .fixed 19800 } ∧ (∀ change ∈ far, change.IsProper) ∧
      t.changeAll far = .error (.componentRange "seconds" (maxSeconds + 1)) := by
  intro t near far
  have ht : Reachable t :=
    .made { localZone := Zone.putBack } (.stamp .localZone (.integer maxSeconds) (.integer 5))
      trivial rfl
  have hday : IsWithinDay 19800 := by decide
  have hnear : ∀ change ∈ near, change.IsProper := by
    simp only [near, List.forall_mem_cons]
    exact ⟨trivial, hday, trivial, List.forall_mem_nil _⟩
  have hfar : ∀ change ∈ far, change.IsProper := by
    simp only [far, List.forall_mem_cons]
    exact ⟨trivial, hday, trivial, trivial, List.forall_mem_nil _⟩
  have hrun : t.changeAll near = .ok { t with offset := .fixed 19800 } := rfl
  obtain ⟨hsucceeds, -, hreachable⟩ := changeAll_outcomes ht hnear
  obtain ⟨hmade, hafter⟩ := (hsucceeds _).mp hrun
  -- both runs start alike, and their first two changes leave the time a second before the last
  have hbeyond : ¬IsWithinBounds ((t.after (near.take 2)).instant.seconds + 2) := by decide
  have hfails : (Change.add (.integer 2)).FailsBy (t.after (near.take 2))
      (.componentRange "seconds" (maxSeconds + 1)) := .beyond rfl hbeyond
  refine ⟨ht, hnear, hmade, hafter.symm, hafter ▸ hreachable hmade, hfar, ?_⟩
  exact ((changeAll_outcomes ht hfar).2.1 _).mpr
    ⟨near.take 2, _, _, rfl, hmade.of_prefix (List.take_prefix 2 near), hfails⟩

end Time

end CivilTime
