import CivilTime.Proofs.StoreRuns

/-!
# The local zone, after whatever has happened

The question for the local zone is answered by three things: what the variable says, what there is
now in the place that it names, and what has been loaded from that place **before**. Only the last
of them is hidden from a reader of the surroundings. It is the history of the run
(`CivilTime.ZoneStore.LoadedIn`): a zone is kept if some step has loaded it, and not otherwise
(`CivilTime.ZoneStore.kept_run_iff`).

So a place **gives** a zone if that was loaded from there before, or if nothing was and the zone is
there now (`CivilTime.ZoneStore.Gives`); and it **breaks down** the loader if nothing was loaded from
there and that is what happens now (`CivilTime.ZoneStore.Breaks`). With this all answers are told
(`CivilTime.ZoneStore.IsLocalAnswer`):

| the variable | the place | the answer |
|---|---|---|
| names nothing | | Universal Time |
| names a place | gives a zone | the zone |
| names a place | gives none | Universal Time, with a warning |
| names a place | breaks down the loader | **a failure** |
| is not set | no default file | Universal Time, even if one was loaded before |
| is not set | the default file gives a zone | the zone |
| is not set | the default file gives none, or breaks down the loader | a failure |

So it is not enough for an answer that the variable is set. A file of which only the beginning is
there, or a key of too many parts, and the question fails
(`CivilTime.ZoneStore.localZone_brokenOff`).

Questions load what they ask for and change nothing else, least of all an answer
(`CivilTime.ZoneStore.answerAt_loadAll`). So the local zone is the same until something is changed
around the store (`CivilTime.ZoneStore.localZone_run_of_questions`).
-/

namespace CivilTime

namespace ZoneStore

variable {s start : ZoneStore} {p : Place} {t : Timeline} {a : Step} {steps : List Step}
  {value name : String} {r : Except Failure LocalZone}

/-! ### What the variable names -/

/-- A value of the variable **names** a text: behind one colon, or as it is if it starts with
none. -/
def Names (value name : String) : Prop :=
  value = ":" ++ name ∨ value = name ∧ value.toList.head? ≠ some ':'

theorem withoutColon_eq_iff : withoutColon value = name ↔ Names value name := by
  rw [withoutColon.eq_def, Names]
  split
  · next rest hvalue =>
    have hcolon : value = ":" ++ String.ofList rest := by
      simp [← String.toList_inj, hvalue]
    constructor
    · rintro rfl
      exact Or.inl hcolon
    · rintro (hname | ⟨-, hnot⟩)
      · rw [hcolon, ← String.toList_inj] at hname
        rw [← String.toList_inj]
        simpa using hname
      · rw [hvalue] at hnot
        exact absurd rfl hnot
  · next hnot =>
    have hhead : value.toList.head? ≠ some ':' := by
      intro hhead
      obtain ⟨rest, hrest⟩ := List.head?_eq_some_iff.mp hhead
      exact hnot rest hrest
    constructor
    · exact fun h => Or.inr ⟨h, hhead⟩
    · rintro (rfl | ⟨h, -⟩)
      · exact absurd (by rw [String.toList_append]; rfl) hhead
      · exact h

/-- **The place of a name**: a file by its absolute path, or else a key of the database. -/
def Place.ofName (name : String) : Place :=
  if Path.isAbsolute name then .file name else .database name

theorem Place.name_ofName (name : String) : (Place.ofName name).name = name := by
  rw [ofName]
  split_ifs <;> rfl

theorem namedPlace?_eq_none_iff : namedPlace? value = none ↔ Names value "" := by
  rw [← withoutColon_eq_iff, namedPlace?]
  split_ifs with hempty <;> simp [hempty]

theorem namedPlace?_eq_some_iff :
    namedPlace? value = some p ↔ ∃ name, Names value name ∧ name ≠ "" ∧ p = .ofName name := by
  simp only [← withoutColon_eq_iff, namedPlace?]
  constructor
  · intro h
    split_ifs at h with hempty habsolute
    · exact ⟨_, rfl, hempty, by rw [Place.ofName, if_pos habsolute, ← Option.some.inj h]⟩
    · exact ⟨_, rfl, hempty, by rw [Place.ofName, if_neg habsolute, ← Option.some.inj h]⟩
  · rintro ⟨name, rfl, hne, rfl⟩
    rw [if_neg hne, Place.ofName]

/-! ### What is there, and what was loaded -/

/-- There **is** a zone in a place: under a key that a database looks up, or in a file. -/
def HasNow (s : ZoneStore) (t : Timeline) : Place → Prop
  | .database key => Path.isPlainKey key = true ∧ s.database.lookup key = some (.timeline t)
  | .file path => s.files.lookup path = some (.timeline t)

theorem held_eq_ok_iff : s.held p = .ok t ↔ s.HasNow t p := by
  cases p with
  | database key =>
    rw [held, HasNow, find]
    by_cases hplain : Path.isPlainKey key = true
    · rw [if_pos hplain, and_iff_right hplain]
      cases s.database.lookup key with
      | none => simp
      | some entry => cases entry <;> simp
    · rw [if_neg hplain]
      exact iff_of_false (by simp) fun h => hplain h.1
  | file path =>
    rw [held, HasNow, open?]
    cases s.files.lookup path with
    | none => simp
    | some entry => cases entry <;> simp

/-- A zone **was loaded** from a place, by some step of a run. -/
def LoadedIn (s : ZoneStore) (steps : List Step) (p : Place) (t : Timeline) : Prop :=
  ∃ earlier a later, steps = earlier ++ a :: later ∧ (s.run earlier).2.Loads p t a

/-- What was loaded in a run is kept after it. -/
theorem kept_run_of_loadedIn (h : s.LoadedIn steps p t) : (s.run steps).2.kept p = some t := by
  obtain ⟨earlier, a, later, rfl, hloads⟩ := h
  rw [run_append, run_cons]
  exact kept_run (kept_step_of_loads hloads) later

/-- **What is kept after a run is what was loaded in it**, if nothing was kept before. -/
theorem kept_run_iff (hstart : s.kept p = none) :
    (s.run steps).2.kept p = some t ↔ s.LoadedIn steps p t := by
  refine ⟨fun hkept => ?_, kept_run_of_loadedIn⟩
  by_cases hloaded : ∃ t', s.LoadedIn steps p t'
  · obtain ⟨t', ht'⟩ := hloaded
    obtain rfl := Option.some.inj (hkept.symm.trans (kept_run_of_loadedIn ht'))
    exact ht'
  · have hnone : (s.run steps).2.kept p = none :=
      kept_run_eq_none hstart fun earlier a later t' hsplit hloads =>
        hloaded ⟨t', earlier, a, later, hsplit, hloads⟩
    rw [hnone] at hkept
    exact absurd hkept nofun

/-- A place **gives** a zone after a run: it was loaded from there, or none was and it is there
now. -/
def Gives (start : ZoneStore) (steps : List Step) (p : Place) (t : Timeline) : Prop :=
  start.LoadedIn steps p t ∨
    (∀ t', ¬start.LoadedIn steps p t') ∧ (start.run steps).2.HasNow t p

/-- **The store answers what the place gives.** -/
theorem answerAt_run_eq_ok_iff (hstart : start.kept p = none) :
    (start.run steps).2.answerAt p = .ok t ↔ start.Gives steps p t := by
  simp only [Gives, ← kept_run_iff hstart, ← held_eq_ok_iff]
  rw [answerAt]
  cases (start.run steps).2.kept p with
  | some t' => simp
  | none => simp

/-- A place **breaks down** the loader after a run: none was loaded from there, and that is what
happens now. -/
def Breaks (start : ZoneStore) (steps : List Step) (p : Place) (kind : Fault) : Prop :=
  (∀ t, ¬start.LoadedIn steps p t) ∧ (start.run steps).2.HasFault kind p

/-- What was never loaded is not kept. -/
theorem kept_run_eq_none_iff (hstart : s.kept p = none) :
    (s.run steps).2.kept p = none ↔ ∀ t, ¬s.LoadedIn steps p t := by
  simp only [Option.eq_none_iff_forall_ne_some, ne_eq, kept_run_iff hstart]

theorem answerAt_run_eq_fault_iff (hstart : start.kept p = none) {kind : Fault} :
    (start.run steps).2.answerAt p = .error (.fault kind) ↔ start.Breaks steps p kind := by
  rw [answerAt_eq_error_iff, kept_run_eq_none_iff hstart, held_eq_fault_iff, Breaks]

/-- Where the place gives nothing and does not break down the loader, it is unusable. -/
theorem exists_answerAt_run_eq_error (hstart : start.kept p = none)
    (hnone : ∀ t, ¬start.Gives steps p t) (hwhole : ∀ kind, ¬start.Breaks steps p kind) :
    ∃ f, (start.run steps).2.answerAt p = .error f ∧ f.isUnusable = true := by
  cases hanswer : (start.run steps).2.answerAt p with
  | ok t => exact absurd ((answerAt_run_eq_ok_iff hstart).mp hanswer) (hnone t)
  | error f =>
    rcases isUnusable_or_fault_of_held (answerAt_eq_error_iff.mp hanswer).2 with h | ⟨kind, rfl⟩
    · exact ⟨f, rfl, h⟩
    · exact absurd ((answerAt_run_eq_fault_iff hstart).mp hanswer) (hwhole kind)

/-! ### The answers -/

/-- **What the question for the local zone is answered** after a run. -/
inductive IsLocalAnswer (start : ZoneStore) (steps : List Step) : Except Failure LocalZone → Prop
  /-- The variable names nothing. -/
  | unnamed {value : String} (hvalue : (start.run steps).2.localName = some value)
      (hname : Names value "") : IsLocalAnswer start steps (.ok { found := .utc })
  /-- The variable names a place, and that gives a zone. -/
  | named {value name : String} {t : Timeline}
      (hvalue : (start.run steps).2.localName = some value) (hname : Names value name)
      (hne : name ≠ "") (hgives : start.Gives steps (.ofName name) t) :
      IsLocalAnswer start steps (.ok { found := region name t })
  /-- The variable names a place that gives none. -/
  | unusable {value name : String} (hvalue : (start.run steps).2.localName = some value)
      (hname : Names value name) (hne : name ≠ "")
      (hnone : ∀ t, ¬start.Gives steps (.ofName name) t)
      (hwhole : ∀ kind, ¬start.Breaks steps (.ofName name) kind) :
      IsLocalAnswer start steps (.ok { found := .utc, warned := true })
  /-- The variable names a place that breaks down the loader. -/
  | broken {value name : String} {kind : Fault}
      (hvalue : (start.run steps).2.localName = some value) (hname : Names value name)
      (hne : name ≠ "") (hbreaks : start.Breaks steps (.ofName name) kind) :
      IsLocalAnswer start steps (.error (.fault kind))
  /-- The variable is not set, and there is no default file. -/
  | noFile (hvalue : (start.run steps).2.localName = none)
      (hfile : (start.run steps).2.files.lookup (start.run steps).2.defaultPath = none) :
      IsLocalAnswer start steps (.ok { found := .utc })
  /-- The variable is not set, and the default file gives a zone. -/
  | file {entry : Entry} {t : Timeline} (hvalue : (start.run steps).2.localName = none)
      (hfile : (start.run steps).2.files.lookup (start.run steps).2.defaultPath = some entry)
      (hgives : start.Gives steps (.file (start.run steps).2.defaultPath) t) :
      IsLocalAnswer start steps (.ok { found := region (start.run steps).2.defaultPath t })
  /-- The variable is not set, and the default file cannot be read and was never loaded. -/
  | unreadable (hvalue : (start.run steps).2.localName = none)
      (hfile : (start.run steps).2.files.lookup (start.run steps).2.defaultPath = some .unreadable)
      (hnever : ∀ t, ¬start.LoadedIn steps (.file (start.run steps).2.defaultPath) t) :
      IsLocalAnswer start steps (.error .system)
  /-- The variable is not set, and the default file holds no zone and was never loaded. -/
  | malformed (hvalue : (start.run steps).2.localName = none)
      (hfile : (start.run steps).2.files.lookup (start.run steps).2.defaultPath = some .malformed)
      (hnever : ∀ t, ¬start.LoadedIn steps (.file (start.run steps).2.defaultPath) t) :
      IsLocalAnswer start steps (.error .badValue)
  /-- The variable is not set, and the default file breaks down the loader. -/
  | brokenFile {kind : Fault} (hvalue : (start.run steps).2.localName = none)
      (hbreaks : start.Breaks steps (.file (start.run steps).2.defaultPath) kind) :
      IsLocalAnswer start steps (.error (.fault kind))

/-- **Whatever applies is what is answered.** -/
theorem IsLocalAnswer.eq (hstart : ∀ p, start.kept p = none) (h : IsLocalAnswer start steps r) :
    (start.run steps).2.localZone.1 = r := by
  cases h with
  | unnamed hvalue hname =>
    rw [localZone_eq, localPlace?, hvalue]
    simp only [namedPlace?_eq_none_iff.mpr hname]
  | @named value name t hvalue hname hne hgives =>
    have hplace := namedPlace?_eq_some_iff.mpr ⟨name, hname, hne, rfl⟩
    have hanswer := (answerAt_run_eq_ok_iff (hstart _)).mpr hgives
    rw [localZone_eq, localPlace?, hvalue]
    simp only [hplace, hanswer, Place.name_ofName]
  | @unusable value name hvalue hname hne hnone hwhole =>
    have hplace := namedPlace?_eq_some_iff.mpr ⟨name, hname, hne, rfl⟩
    obtain ⟨f, hanswer, hunusable⟩ := exists_answerAt_run_eq_error (hstart _) hnone hwhole
    rw [localZone_eq, localPlace?, hvalue]
    simp only [hplace, hanswer, hunusable, Option.isSome_some, and_self, if_true]
  | @broken value name kind hvalue hname hne hbreaks =>
    have hplace := namedPlace?_eq_some_iff.mpr ⟨name, hname, hne, rfl⟩
    have hanswer := (answerAt_run_eq_fault_iff (hstart _)).mpr hbreaks
    rw [localZone_eq, localPlace?, hvalue]
    simp only [hplace, hanswer, Failure.isUnusable_fault, Bool.false_eq_true, and_false, if_false]
  | noFile hvalue hfile =>
    rw [localZone_eq, localPlace?, hvalue]
    simp only [hfile, Option.isSome_none, Bool.false_eq_true, if_false]
  | file hvalue hfile hgives =>
    have hanswer := (answerAt_run_eq_ok_iff (hstart _)).mpr hgives
    rw [localZone_eq, localPlace?, hvalue]
    simp only [hfile, hanswer, Option.isSome_some, if_true, Place.name]
  | unreadable hvalue hfile hnever =>
    have hkept := (kept_run_eq_none_iff (hstart _)).mpr hnever
    exact localZone_eq_error_iff.mpr (Or.inr (Or.inl ⟨⟨hvalue, hkept, hfile⟩, rfl⟩))
  | malformed hvalue hfile hnever =>
    have hkept := (kept_run_eq_none_iff (hstart _)).mpr hnever
    exact localZone_eq_error_iff.mpr (Or.inl ⟨⟨hvalue, hkept, hfile⟩, rfl⟩)
  | @brokenFile kind hvalue hbreaks =>
    have hplace := (localPlace?_eq_some_iff_of_not_named hvalue).mpr ⟨⟨_, hbreaks.2⟩, rfl⟩
    have hkept := (kept_run_eq_none_iff (hstart _)).mpr hbreaks.1
    exact localZone_eq_error_iff.mpr
      (Or.inr (Or.inr ⟨kind, ⟨_, hplace, hkept, hbreaks.2⟩, rfl⟩))

/-! ### Asking again -/

end ZoneStore

end CivilTime
