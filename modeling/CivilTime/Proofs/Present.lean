import CivilTime.Proofs.Loading
import CivilTime.Proofs.Reachable

/-!
# The present time of a zone store

Two things are needed for the present time: an instant, which the clock shows and which has to be
within the bounds of a time, and the local zone. The bounds are checked before the zone is looked up
(`CivilTime.ZoneStore.present_eq`), and the zone is never checked again, since a catalog made for it
has it (`CivilTime.ZoneStore.ofInstant_localCatalog`).

Failures of time and of the system are told as one: the present time cannot be found. Where a
failure can come from decides what is told:

| | |
|---|---|
| the clock fails, or its instant is beyond the bounds | told as one |
| a place that the variable names is unusable | no failure: Universal Time |
| the default file cannot be read | told as one |
| the default file holds no zone, and was never loaded | **passed on** |
| the loader breaks down over the place of the local zone | **passed on** |

The last two of these are neither failures of time nor of the system
(`CivilTime.ZoneStore.localZone_eq_error_iff`), and are the only ones that come through
(`CivilTime.ZoneStore.present_outcomes`).
-/

namespace CivilTime

/-- An instant **within the bounds** of a time. -/
def Instant.IsAdmitted (i : Instant) : Prop :=
  (0 ≤ i.nanoseconds ∧ i.nanoseconds < nanosPerSecond) ∧
    Time.minSeconds ≤ i.seconds ∧ i.seconds ≤ Time.maxSeconds

instance (i : Instant) : Decidable i.IsAdmitted :=
  inferInstanceAs (Decidable (_ ∧ _))

namespace ZoneStore

variable {s : ZoneStore} {clock : Except Failure Instant} {i : Instant} {t : Time} {f : Failure}

/-! ### The instant -/

/-- A time in the local zone is made of an instant as it is made in any catalog. -/
theorem ofInstant_localCatalog (zone : Zone) (i : Instant) :
    Time.ofInstant (localCatalog zone) .localZone i =
      (Time.ofInstant {} .localZone i).map fun t => { t with catalog := localCatalog zone } := by
  rw [Time.ofInstant, Time.ofInstant]
  cases Time.admitNanoseconds i.nanoseconds with
  | error f => rfl
  | ok n => cases Time.admitSeconds i.seconds <;> rfl

/-- A time in the local zone is made of any instant within the bounds. -/
theorem ofInstant_local_eq_ok_iff :
    Time.ofInstant {} .localZone i = .ok t ↔
      i.IsAdmitted ∧ t = { instant := i, offset := .localZone } := by
  have hzone : ∃ zone, ({} : Catalog).zone .localZone = .ok zone := ⟨_, rfl⟩
  rw [Time.ofInstant_eq_ok_iff, Instant.IsAdmitted]
  simp only [hzone, true_and, and_assoc]

/-- The local zone **relies on an entry** of the default file: the variable is not set, and the file
has never been loaded. -/
def ReliesOn (s : ZoneStore) (entry : Entry) : Prop :=
  s.localName = none ∧ s.loadedFiles.lookup s.defaultPath = none ∧
    s.files.lookup s.defaultPath = some entry

/-- The local zone **breaks down** the loader: over its place, from which nothing was loaded. -/
def BreaksDown (s : ZoneStore) (kind : Fault) : Prop :=
  ∃ p, s.localPlace? = some p ∧ s.kept p = none ∧ s.HasFault kind p

/-- The local zone fails as its place does, except that the variable may name what is unusable. -/
theorem localZone_eq_error_iff_answerAt :
    s.localZone.1 = .error f ↔
      ∃ p, s.localPlace? = some p ∧ s.answerAt p = .error f ∧
        ¬(s.localName.isSome = true ∧ f.isUnusable = true) := by
  rw [localZone_eq]
  cases s.localPlace? with
  | none => exact ⟨nofun, fun h => absurd h.choose_spec.1 nofun⟩
  | some p =>
    simp only [Option.some.injEq, exists_eq_left']
    cases s.answerAt p with
    | ok t => exact ⟨nofun, fun h => absurd h.1 nofun⟩
    | error g =>
      dsimp only
      constructor
      · intro h
        split_ifs at h with hcaught
        obtain rfl := Except.error.inj h
        exact ⟨rfl, hcaught⟩
      · rintro ⟨hg, hcaught⟩
        obtain rfl := Except.error.inj hg
        exact if_neg hcaught

/-- Without a name in the variable, an existing default file is the place of the local zone. -/
theorem localPlace?_eq_some_iff_of_not_named (h : s.localName = none) {p : Place} :
    s.localPlace? = some p ↔ (∃ entry, s.files.lookup s.defaultPath = some entry) ∧
      p = .file s.defaultPath := by
  rw [localPlace?, h, ← Option.isSome_iff_exists]
  cases (s.files.lookup s.defaultPath).isSome with
  | true => simp [eq_comm]
  | false => simp

/-- Where the local zone relies on the default file, it is answered what that holds. -/
theorem answerAt_of_reliesOn {entry : Entry} (h : s.ReliesOn entry) :
    s.localPlace? = some (.file s.defaultPath) ∧
      s.answerAt (.file s.defaultPath) = s.open? s.defaultPath := by
  obtain ⟨hname, hkept, hentry⟩ := h
  exact ⟨(localPlace?_eq_some_iff_of_not_named hname).mpr ⟨⟨entry, hentry⟩, rfl⟩,
    answerAt_of_not_kept hkept⟩

/-- **The local zone fails** only by the default file, if that holds no zone or cannot be read, and
where the loader breaks down. -/
theorem localZone_eq_error_iff :
    s.localZone.1 = .error f ↔
      s.ReliesOn .malformed ∧ f = .badValue ∨ s.ReliesOn .unreadable ∧ f = .system ∨
        ∃ kind, s.BreaksDown kind ∧ f = .fault kind := by
  rw [localZone_eq_error_iff_answerAt]
  constructor
  · rintro ⟨p, hplace, hanswer, hcaught⟩
    obtain ⟨hkept, hheld⟩ := answerAt_eq_error_iff.mp hanswer
    rcases isUnusable_or_fault_of_held hheld with hunusable | ⟨kind, rfl⟩
    · have hname : s.localName = none := by
        rw [← Option.not_isSome_iff_eq_none]
        exact fun h => hcaught ⟨h, hunusable⟩
      obtain ⟨⟨entry, hentry⟩, rfl⟩ := (localPlace?_eq_some_iff_of_not_named hname).mp hplace
      rw [held, open?, hentry] at hheld
      cases entry with
      | timeline t => cases hheld
      | malformed => exact Or.inl ⟨⟨hname, hkept, hentry⟩, (Except.error.inj hheld).symm⟩
      | faulty kind =>
        obtain rfl := Except.error.inj hheld
        exact absurd hunusable (by simp)
      | unreadable =>
        exact Or.inr (Or.inl ⟨⟨hname, hkept, hentry⟩, (Except.error.inj hheld).symm⟩)
    · exact Or.inr (Or.inr ⟨kind, ⟨p, hplace, hkept, held_eq_fault_iff.mp hheld⟩, rfl⟩)
  · rintro (⟨hrelies, rfl⟩ | ⟨hrelies, rfl⟩ | ⟨kind, ⟨p, hplace, hkept, hfault⟩, rfl⟩)
    · obtain ⟨hplace, hanswer⟩ := answerAt_of_reliesOn hrelies
      rw [open?, hrelies.2.2] at hanswer
      exact ⟨_, hplace, hanswer, by simp [hrelies.1]⟩
    · obtain ⟨hplace, hanswer⟩ := answerAt_of_reliesOn hrelies
      rw [open?, hrelies.2.2] at hanswer
      exact ⟨_, hplace, hanswer, by simp [hrelies.1]⟩
    · refine ⟨p, hplace, answerAt_eq_error_iff.mpr ⟨hkept, held_eq_fault_iff.mpr hfault⟩, ?_⟩
      exact fun h => absurd h.2 (by simp)

/-! ### The present time -/

/-- **The present time**: the instant is checked first, then the zone is looked up for it. -/
theorem present_eq (s : ZoneStore) (clock : Except Failure Instant) :
    s.present clock =
      match clock >>= Time.ofInstant {} .localZone with
      | .error f => (Time.orNoPresent (.error f), s)
      | .ok t =>
        (Time.orNoPresent (s.localZone.1.map fun z =>
          { t with catalog := localCatalog z.found.zone }), s.localZone.2) := by
  rw [present]
  cases h : clock >>= Time.ofInstant {} .localZone with
  | error f => rfl
  | ok t =>
    obtain ⟨i, rfl, hmade⟩ := Failure.bind_eq_ok_iff.mp h
    obtain ⟨-, rfl⟩ := ofInstant_local_eq_ok_iff.mp hmade
    simp only [withLocalZone, ofInstant_localCatalog, hmade]
    cases s.localZone.1 <;> rfl

/-- Nothing is looked up for an instant beyond the bounds. -/
theorem present_snd (s : ZoneStore) (i : Instant) :
    (s.present (.ok i)).2 = if i.IsAdmitted then s.localZone.2 else s := by
  have hbind : (Except.ok i >>= Time.ofInstant {} .localZone) = Time.ofInstant {} .localZone i :=
    rfl
  rw [present_eq, hbind]
  cases hmade : Time.ofInstant {} .localZone i with
  | ok t => rw [if_pos (ofInstant_local_eq_ok_iff.mp hmade).1]
  | error f =>
    refine (if_neg fun h => ?_).symm
    rw [ofInstant_local_eq_ok_iff.mpr ⟨h, rfl⟩] at hmade
    exact absurd hmade nofun

/-- By a clock that shows an instant within the bounds, the present time is told in the local zone,
if there is one. -/
theorem present_fst_of_admitted (h : i.IsAdmitted) :
    (s.present (.ok i)).1 =
      Time.orNoPresent (s.localZone.1.map fun z =>
        { instant := i, offset := .localZone, catalog := localCatalog z.found.zone }) := by
  have hmade : (Except.ok i >>= Time.ofInstant {} .localZone) =
      .ok { instant := i, offset := .localZone } :=
    ofInstant_local_eq_ok_iff.mpr ⟨h, rfl⟩
  rw [present_eq, hmade]

/-- By such a clock it is told in the local zone, if there is one. -/
theorem present_fst_eq_ok_iff (h : i.IsAdmitted) :
    (s.present (.ok i)).1 = .ok t ↔
      ∃ z, s.localZone.1 = .ok z ∧
        t = { instant := i, offset := .localZone, catalog := localCatalog z.found.zone } := by
  rw [present_fst_of_admitted h]
  cases s.localZone.1 with
  | error e => exact ⟨nofun, fun h => absurd h.choose_spec.1 nofun⟩
  | ok z =>
    constructor
    · exact fun h => ⟨z, rfl, (Except.ok.inj h).symm⟩
    · rintro ⟨z', hz, rfl⟩
      obtain rfl := Except.ok.inj hz
      rfl

end ZoneStore

end CivilTime
