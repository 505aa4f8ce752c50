import CivilTime.ZoneStore
import Mathlib.Tactic.SplitIfs

/-!
# What a store answers for a place

A zone is loaded from a **place**: a key of the database, or the path of a file
(`CivilTime.ZoneStore.Place`). The store has a table of what it has loaded for either kind, and the
two are never mixed up, even where a key and a path are the same text. There are three things
to be known of a place:

* what is there **now** (`CivilTime.ZoneStore.held`), which may change at any time;
* what has been loaded from there and is **kept** (`CivilTime.ZoneStore.kept`);
* what the store **answers** for it (`CivilTime.ZoneStore.answerAt`): what is kept, and else what is
  there now.

Loading gives the answer and keeps it, and does nothing else. So it changes **no answer**, for this
place or for any other (`CivilTime.ZoneStore.answerAt_load`), and where there is nothing to be had
it changes nothing at all (`CivilTime.ZoneStore.load_snd_of_error`).

A place without a zone is either unusable, or one over which the loader breaks down
(`CivilTime.ZoneStore.HasFault`, `CivilTime.ZoneStore.isUnusable_or_fault_of_held`).

The local zone is looked for in one place at most (`CivilTime.ZoneStore.localPlace?`). What becomes
of the answer depends on who named the place: the variable of the environment may name what is
unusable, but the default file has to be in order (`CivilTime.ZoneStore.localZone_eq`).
-/

namespace CivilTime

namespace ZoneStore

/-! ### Places -/

/-- A **place** that a zone is loaded from. -/
inductive Place
  | database (key : String)
  | file (path : String)
  deriving DecidableEq, Repr

/-- The name of a zone that is loaded from there. -/
def Place.name : Place → String
  | database key => key
  | file path => path

variable {s : ZoneStore} {p q : Place} {t : Timeline} {f : Failure}

/-- What is in a place **now**. -/
def held (s : ZoneStore) : Place → Except Failure Timeline
  | .database key => s.find key
  | .file path => s.open? path

/-- What has been loaded from a place and is **kept**. -/
def kept (s : ZoneStore) : Place → Option Timeline
  | .database key => s.loadedZones.lookup key
  | .file path => s.loadedFiles.lookup path

/-- **What the store answers** for a place. -/
def answerAt (s : ZoneStore) (p : Place) : Except Failure Timeline :=
  match s.kept p with
  | some t => .ok t
  | none => s.held p

theorem answerAt_of_kept (h : s.kept p = some t) : s.answerAt p = .ok t := by
  rw [answerAt, h]

theorem answerAt_of_not_kept (h : s.kept p = none) : s.answerAt p = s.held p := by
  rw [answerAt, h]

/-- **The surroundings** of a store: the store itself, as if it had loaded nothing. -/
def surroundings (s : ZoneStore) : ZoneStore :=
  { s with loadedZones := [], loadedFiles := [] }

/-- What is in a place depends on the surroundings alone. -/
theorem held_surroundings (s : ZoneStore) (p : Place) : s.surroundings.held p = s.held p := by
  cases p <;> rfl

/-- **The loader breaks down** over a place: over what is there or, where there is nothing, over the
search for it. -/
def HasFault (s : ZoneStore) (kind : Fault) : Place → Prop
  | .database key => Path.isPlainKey key = true ∧
      (s.database.lookup key = some (.faulty kind) ∨
        s.database.lookup key = none ∧ s.room < Path.depth key ∧ kind = .tooDeep)
  | .file path => s.files.lookup path = some (.faulty kind)

theorem held_eq_fault_iff {kind : Fault} : s.held p = .error (.fault kind) ↔ s.HasFault kind p := by
  cases p with
  | database key =>
    rw [held, HasFault, find]
    by_cases hplain : Path.isPlainKey key = true
    · rw [if_pos hplain, and_iff_right hplain]
      cases s.database.lookup key with
      | none =>
        by_cases hdeep : s.room < Path.depth key
        · simp [hdeep, eq_comm]
        · simp [hdeep]
      | some entry => cases entry <;> simp
    · rw [if_neg hplain]
      exact iff_of_false (by simp) fun h => hplain h.1
  | file path =>
    rw [held, HasFault, open?]
    cases s.files.lookup path with
    | none => simp
    | some entry => cases entry <;> simp

/-- Nothing is answered for a place where nothing is kept and there is nothing to be had. -/
theorem answerAt_eq_error_iff :
    s.answerAt p = .error f ↔ s.kept p = none ∧ s.held p = .error f := by
  rw [answerAt]
  cases s.kept p with
  | some t => exact ⟨nofun, fun h => absurd h.1 nofun⟩
  | none => exact (and_iff_right rfl).symm

/-- **What is no zone is unusable**, unless the loader breaks down over it. -/
theorem isUnusable_or_fault_of_held (h : s.held p = .error f) :
    f.isUnusable = true ∨ ∃ kind, f = .fault kind := by
  cases p with
  | database key =>
    rw [held, find] at h
    split at h
    · split at h
      · cases h
      · obtain rfl := Except.error.inj h
        exact Or.inl rfl
      · obtain rfl := Except.error.inj h
        exact Or.inl rfl
      · exact Or.inr ⟨_, (Except.error.inj h).symm⟩
      · split_ifs at h
        · exact Or.inr ⟨_, (Except.error.inj h).symm⟩
        · obtain rfl := Except.error.inj h
          exact Or.inl rfl
    · obtain rfl := Except.error.inj h
      exact Or.inl rfl
  | file path =>
    rw [held, open?] at h
    split at h
    · cases h
    · obtain rfl := Except.error.inj h
      exact Or.inl (by decide)
    · exact Or.inr ⟨_, (Except.error.inj h).symm⟩
    · obtain rfl := Except.error.inj h
      exact Or.inl rfl
    · obtain rfl := Except.error.inj h
      exact Or.inl rfl

/-! ### Loading -/

/-- Loading from a place. -/
def load (s : ZoneStore) : Place → Except Failure Timeline × ZoneStore
  | .database key => s.loadZone key
  | .file path => s.loadFile path

/-- The store that has loaded a zone from a place. -/
def keep (s : ZoneStore) (t : Timeline) : Place → ZoneStore
  | .database key => { s with loadedZones := (key, t) :: s.loadedZones }
  | .file path => { s with loadedFiles := (path, t) :: s.loadedFiles }

/-- **Loading** gives the answer, and keeps it if it was not kept before. -/
theorem load_eq (s : ZoneStore) (p : Place) :
    s.load p =
      (s.answerAt p, match s.kept p, s.held p with
        | none, .ok t => s.keep t p
        | _, _ => s) := by
  cases p with
  | database key =>
    simp only [load, loadZone, answerAt, kept, held, keep]
    cases s.loadedZones.lookup key with
    | some t => rfl
    | none => cases s.find key <;> rfl
  | file path =>
    simp only [load, loadFile, answerAt, kept, held, keep]
    cases s.loadedFiles.lookup path with
    | some t => rfl
    | none => cases s.open? path <;> rfl

theorem load_fst (s : ZoneStore) (p : Place) : (s.load p).1 = s.answerAt p := by
  rw [load_eq]

theorem loadZone_eq (s : ZoneStore) (key : String) :
    s.loadZone key = (s.answerAt (.database key), (s.load (.database key)).2) :=
  Prod.ext (load_fst s (.database key)) rfl

theorem loadFile_eq (s : ZoneStore) (path : String) :
    s.loadFile path = (s.answerAt (.file path), (s.load (.file path)).2) :=
  Prod.ext (load_fst s (.file path)) rfl

theorem surroundings_keep (s : ZoneStore) (t : Timeline) (p : Place) :
    (s.keep t p).surroundings = s.surroundings := by
  cases p <;> rfl

theorem lookup_cons_eq_ite {α : Type} (name : String) (entry : String × α)
    (table : List (String × α)) :
    (entry :: table).lookup name = if name = entry.1 then some entry.2 else table.lookup name := by
  rw [List.lookup_cons]
  split_ifs with h
  · rw [beq_iff_eq.mpr h]
  · rw [beq_false_of_ne h]

theorem kept_keep (s : ZoneStore) (t : Timeline) (p q : Place) :
    (s.keep t p).kept q = if q = p then some t else s.kept q := by
  cases p <;> cases q <;>
    simp only [keep, kept, lookup_cons_eq_ite, Place.database.injEq, Place.file.injEq, reduceCtorEq,
      if_false]

/-- Loading leaves the surroundings alone. -/
theorem surroundings_load (s : ZoneStore) (p : Place) :
    (s.load p).2.surroundings = s.surroundings := by
  rw [load_eq]
  dsimp only
  split
  · exact surroundings_keep s _ p
  · rfl

/-- **What is kept after loading**: the answer, for the place itself; for others nothing changes. -/
theorem kept_load (s : ZoneStore) (p q : Place) :
    (s.load p).2.kept q = if q = p then (s.answerAt p).toOption else s.kept q := by
  rw [load_eq]
  dsimp only
  split
  · next t hkept hheld => rw [kept_keep, answerAt_of_not_kept hkept, hheld]; rfl
  · next hcases =>
    split_ifs with h
    · subst h
      cases hkept : s.kept q with
      | some t => rw [answerAt_of_kept hkept]; rfl
      | none =>
        rw [answerAt_of_not_kept hkept]
        cases hheld : s.held q with
        | ok t => exact absurd hheld (hcases t hkept)
        | error f => rfl
    · rfl

/-- **Loading changes no answer.** -/
theorem answerAt_load (s : ZoneStore) (p : Place) : (s.load p).2.answerAt = s.answerAt := by
  funext q
  have hheld : (s.load p).2.held q = s.held q := by
    rw [← held_surroundings, surroundings_load, held_surroundings]
  rw [answerAt, kept_load, hheld]
  split_ifs with h
  · subst h
    cases hkept : s.kept q with
    | some t => rw [answerAt_of_kept hkept]; rfl
    | none =>
      rw [answerAt_of_not_kept hkept]
      cases s.held q <;> rfl
  · rfl

/-- **What could not be loaded leaves no trace.** -/
theorem load_snd_of_error (h : s.answerAt p = .error f) : (s.load p).2 = s := by
  rw [load_eq]
  cases hkept : s.kept p with
  | some t => rfl
  | none =>
    rw [answerAt_of_not_kept hkept] at h
    rw [h]

/-! ### The local zone -/

/-- The place that a value of the variable names, without one colon in front, if it names any: a
file by its absolute path, or else a key of the database. -/
def namedPlace? (value : String) : Option Place :=
  let name := withoutColon value
  if name = "" then none
  else some (if Path.isAbsolute name then .file name else .database name)

/-- **The place of the local zone**: what the variable names or, where it is not set, the default
file if that exists. -/
def localPlace? (s : ZoneStore) : Option Place :=
  match s.localName with
  | some value => namedPlace? value
  | none => if (s.files.lookup s.defaultPath).isSome then some (.file s.defaultPath) else none

/-- **The local zone of a value of the variable** is what the store answers for the place that it
names. Where that is unusable there is a warning, and a breakdown is passed on. -/
theorem localZoneOf_eq (s : ZoneStore) (value : String) :
    s.localZoneOf value =
      match namedPlace? value with
      | none => (.ok { found := .utc }, s)
      | some p =>
        (match s.answerAt p with
          | .ok t => .ok { found := region p.name t }
          | .error f => if f.isUnusable then .ok { found := .utc, warned := true } else .error f,
          (s.load p).2) := by
  obtain ⟨name, hname⟩ : ∃ name, withoutColon value = name := ⟨_, rfl⟩
  simp only [localZoneOf, namedPlace?, hname]
  by_cases hempty : name = ""
  · rw [if_pos hempty, if_pos hempty]
  · rw [if_neg hempty, if_neg hempty]
    -- either way the load is one from a place, and only its answer matters
    cases Path.isAbsolute name with
    | true =>
      simp only [if_true, loadFile_eq]
      cases s.answerAt (.file name) <;> rfl
    | false =>
      simp only [Bool.false_eq_true, if_false, loadZone_eq]
      cases s.answerAt (.database name) <;> rfl

/-- **The local zone** is what the store answers for its place. Where the variable names something
unusable, Universal Time stands in for it, with a warning; but the default file fails, and over
either of them the loader may break down. -/
theorem localZone_eq (s : ZoneStore) :
    s.localZone =
      match s.localPlace? with
      | none => (.ok { found := .utc }, s)
      | some p =>
        (match s.answerAt p with
          | .ok t => .ok { found := region p.name t }
          | .error f =>
            if s.localName.isSome ∧ f.isUnusable then .ok { found := .utc, warned := true }
            else .error f,
          (s.load p).2) := by
  rw [localZone, localPlace?]
  cases s.localName with
  | some value =>
    simp only [localZoneOf_eq, Option.isSome_some, true_and]
  | none =>
    cases (s.files.lookup s.defaultPath).isSome with
    | false => rfl
    | true =>
      have hpath := congrArg defaultPath (surroundings_load s (.file s.defaultPath))
      change (s.load (.file s.defaultPath)).2.defaultPath = s.defaultPath at hpath
      simp only [if_true, loadFile_eq, hpath]
      cases s.answerAt (.file s.defaultPath) <;> rfl

end ZoneStore

end CivilTime
