import CivilTime.Proofs.Present
import Mathlib.Data.List.TakeWhile

/-!
# What a run of a zone store remembers

The steps of a run are **questions** to the store and **changes** around it
(`CivilTime.ZoneStore.Step.isChange`). A question asks for zones in some places, one after the other
until there is nothing to be had (`CivilTime.ZoneStore.asked`, `CivilTime.ZoneStore.obtained`), and
all that it does to the store is that it loads what it obtains
(`CivilTime.ZoneStore.step_snd_of_question`). A change leaves alone what has been loaded.

What a step **loads** can be seen from its answer (`CivilTime.ZoneStore.Loads`), and it is what the
step obtains (`CivilTime.ZoneStore.loads_iff`). From there on the argument is short:

| | theorem |
|---|---|
| what a step loads is kept after it | `CivilTime.ZoneStore.kept_step_of_loads` |
| what is kept stays so | `CivilTime.ZoneStore.kept_run` |
| what no step loads is not kept | `CivilTime.ZoneStore.kept_run_eq_none` |
| only changes change what is in a place | `CivilTime.ZoneStore.surroundings_run` |
| a question that loads nothing does nothing | `CivilTime.ZoneStore.step_snd_eq_self` |

So all loads from one place in a run are of one zone, the one that was there at the first of them,
and a question that found nothing might as well not have been asked
(`CivilTime.ZoneStore.loads_of_run`).
-/

namespace CivilTime

namespace ZoneStore

variable {s : ZoneStore} {p q : Place} {t t' : Timeline} {a : Step}

/-! ### One load after another -/

/-- Of several places, those that a zone is **obtained** from, if one after the other is asked for
until there is nothing to be had. -/
def obtained (s : ZoneStore) (places : List Place) : List Place :=
  places.takeWhile fun p => (s.answerAt p).isOk

/-- Loading from one place after another. -/
def loadAll (s : ZoneStore) : List Place → ZoneStore
  | [] => s
  | p :: rest =>
    match s.answerAt p with
    | .ok _ => (s.load p).2.loadAll rest
    | .error _ => s

theorem obtained_cons_of_ok {places : List Place} (h : s.answerAt p = .ok t) :
    s.obtained (p :: places) = p :: s.obtained places :=
  List.takeWhile_cons_of_pos (by rw [h]; rfl)

theorem obtained_cons_of_error {places : List Place} {f : Failure} (h : s.answerAt p = .error f) :
    s.obtained (p :: places) = [] :=
  List.takeWhile_cons_of_neg (by rw [h]; exact Bool.false_ne_true)

/-- What is obtained has an answer. -/
theorem exists_of_mem_obtained {places : List Place} (h : p ∈ s.obtained places) :
    ∃ t, s.answerAt p = .ok t := by
  have hok := List.mem_takeWhile_imp h
  cases hanswer : s.answerAt p with
  | ok t => exact ⟨t, rfl⟩
  | error f =>
    rw [hanswer] at hok
    exact absurd hok Bool.false_ne_true

theorem loadAll_cons_of_ok {places : List Place} (h : s.answerAt p = .ok t) :
    s.loadAll (p :: places) = (s.load p).2.loadAll places := by
  rw [loadAll, h]

theorem loadAll_cons_of_error {places : List Place} {f : Failure} (h : s.answerAt p = .error f) :
    s.loadAll (p :: places) = s := by
  rw [loadAll, h]

theorem loadAll_singleton (s : ZoneStore) (p : Place) : s.loadAll [p] = (s.load p).2 := by
  cases h : s.answerAt p with
  | ok t => exact loadAll_cons_of_ok h
  | error f => rw [loadAll_cons_of_error h, load_snd_of_error h]

/-- **What is kept after several loads**: what was obtained, and what was kept before. -/
theorem kept_loadAll (s : ZoneStore) (places : List Place) (q : Place) :
    (s.loadAll places).kept q =
      if q ∈ s.obtained places then (s.answerAt q).toOption else s.kept q := by
  induction places generalizing s with
  | nil => exact (if_neg List.not_mem_nil).symm
  | cons p rest ih =>
    cases h : s.answerAt p with
    | error f =>
      rw [loadAll_cons_of_error h, obtained_cons_of_error h]
      exact (if_neg List.not_mem_nil).symm
    | ok t =>
      -- the first load changes no answer, so the others obtain what they would without it
      have hobtained : (s.load p).2.obtained rest = s.obtained rest := by
        rw [obtained, answerAt_load, obtained]
      rw [loadAll_cons_of_ok h, obtained_cons_of_ok h, ih, hobtained, kept_load, answerAt_load]
      simp only [List.mem_cons]
      by_cases hmem : q ∈ s.obtained rest
      · rw [if_pos hmem, if_pos (Or.inr hmem)]
      · rw [if_neg hmem]
        by_cases hq : q = p
        · rw [if_pos hq, if_pos (Or.inl hq), hq]
        · rw [if_neg hq, if_neg (not_or.mpr ⟨hq, hmem⟩)]

theorem surroundings_loadAll (s : ZoneStore) (places : List Place) :
    (s.loadAll places).surroundings = s.surroundings := by
  induction places generalizing s with
  | nil => rfl
  | cons p rest ih =>
    cases h : s.answerAt p with
    | error f => rw [loadAll_cons_of_error h]
    | ok t => rw [loadAll_cons_of_ok h, ih, surroundings_load]

/-- Where nothing is obtained, nothing happens. -/
theorem loadAll_eq_self {places : List Place} (h : s.obtained places = []) :
    s.loadAll places = s := by
  cases places with
  | nil => rfl
  | cons p rest =>
    cases hanswer : s.answerAt p with
    | error f => exact loadAll_cons_of_error hanswer
    | ok t =>
      rw [obtained_cons_of_ok hanswer] at h
      exact absurd h (List.cons_ne_nil _ _)

/-- Keys are loaded as their places are, and each zone that is answered is that of its key. -/
theorem loadZones_eq (s : ZoneStore) (keys : List String) :
    s.loadZones keys =
      (keys.mapM fun key => (s.answerAt (.database key)).map (region key),
        s.loadAll (keys.map .database)) := by
  induction keys generalizing s with
  | nil => rfl
  | cons key rest ih =>
    rw [loadZones, loadZone_eq, List.mapM_cons, List.map_cons]
    cases h : s.answerAt (.database key) with
    | error f => rw [loadAll_cons_of_error h, load_snd_of_error h]; rfl
    | ok t =>
      simp only [ih, answerAt_load, loadAll_cons_of_ok h]
      cases rest.mapM fun key => (s.answerAt (.database key)).map (region key) <;> rfl

/-! ### Questions and changes -/

/-- A **change** around the store, as opposed to a question that is put to it. -/
def Step.isChange : Step → Bool
  | .setLocalName _ | .clearLocalName | .putFile _ _ | .deleteFile _ | .putZone _ _ => true
  | .named _ | .localZone | .now _ | .localTime _ | .catalog _ _ _ => false

/-- The places that a step **asks for**, one after the other. A time asks for the local zone, but
only where a time can be made of what is given. -/
def asked (s : ZoneStore) : Step → List Place
  | .named key => if key = "" then [] else [.database key]
  | .localZone => s.localPlace?.toList
  | .now clock => if clock.IsAdmitted then s.localPlace?.toList else []
  | .localTime args =>
    if (ArgumentList.normalize args >>= WallTime.check).isOk then s.localPlace?.toList else []
  | .catalog localKey keys _ => (localKey :: keys).map .database
  | .setLocalName _ | .clearLocalName | .putFile _ _ | .deleteFile _ | .putZone _ _ => []

theorem localZone_snd (s : ZoneStore) : s.localZone.2 = s.loadAll s.localPlace?.toList := by
  rw [localZone_eq]
  cases s.localPlace? with
  | none => rfl
  | some p => exact (loadAll_singleton s p).symm

/-- **All that a question does to the store is to load what it asks for.** -/
theorem step_snd_of_question (h : a.isChange = false) : (s.step a).2 = s.loadAll (s.asked a) := by
  cases a with
  | named key =>
    change (s.named key).2 = _
    rw [named, asked]
    split_ifs with hempty
    · rfl
    · exact (loadAll_singleton s (.database key)).symm
  | localZone => exact localZone_snd s
  | now clock =>
    change (s.present (.ok clock)).2 = _
    rw [present_snd, asked]
    split_ifs
    · exact localZone_snd s
    · rfl
  | localTime args =>
    change (s.localTime args).2 = _
    rw [localTime, asked]
    cases ArgumentList.normalize args >>= WallTime.check with
    | error f => rfl
    | ok w => exact localZone_snd s
  | catalog localKey keys names =>
    change (s.loadZones (localKey :: keys)).2 = _
    rw [loadZones_eq, asked]
  | setLocalName | clearLocalName | putFile | deleteFile | putZone => cases h

/-! ### What a step loads -/

/-- The local zone is a zone that is loaded from a place. -/
def LoadsLocal (s : ZoneStore) (p : Place) (t : Timeline) : Prop :=
  s.localPlace? = some p ∧ s.localZone.1 = .ok { found := region p.name t }

/-- **A step loads** a zone from a place: it asks for it there and has it in its answer. A time has
no place in its answer for the zone, but it asks for the local zone, as the question for that does;
and of several keys the first ones may be loaded even if a later one fails. -/
def Loads (s : ZoneStore) (p : Place) (t : Timeline) : Step → Prop
  | .named key => p = .database key ∧ (s.named key).1 = .ok (region key t)
  | .localZone => s.LoadsLocal p t
  | .now clock => clock.IsAdmitted ∧ s.LoadsLocal p t
  | .localTime args =>
    (ArgumentList.normalize args >>= WallTime.check).isOk ∧ s.LoadsLocal p t
  | .catalog localKey keys _ =>
    ∃ n zones, (s.loadZones ((localKey :: keys).take n)).1 = .ok zones ∧
      ∃ key, p = .database key ∧ region key t ∈ zones
  | .setLocalName _ | .clearLocalName | .putFile _ _ | .deleteFile _ | .putZone _ _ => False

theorem region_inj {key key' : String} : region key t = region key' t' ↔ key = key' ∧ t = t' := by
  rw [region, region, NamedZone.mk.injEq, Zone.region.injEq]

/-- A place that is asked for alone is obtained from if it has an answer. -/
theorem mem_obtained_singleton_iff :
    p ∈ s.obtained [q] ∧ s.answerAt p = .ok t ↔ q = p ∧ s.answerAt p = .ok t := by
  refine and_congr_left fun h => ⟨fun hmem => ?_, fun heq => ?_⟩
  · exact (List.mem_singleton.mp (List.takeWhile_subset _ hmem)).symm
  · rw [heq, obtained_cons_of_ok h]
    exact List.mem_cons_self

/-- The question for the local zone loads what is obtained from the place of the local zone. -/
theorem loadsLocal_iff :
    s.LoadsLocal p t ↔ p ∈ s.obtained s.localPlace?.toList ∧ s.answerAt p = .ok t := by
  rw [LoadsLocal, localZone_eq]
  cases s.localPlace? with
  | none => exact ⟨fun h => absurd h.1 nofun, fun h => absurd h.1 List.not_mem_nil⟩
  | some q =>
    rw [Option.toList_some, mem_obtained_singleton_iff, Option.some_inj]
    refine and_congr_right fun heq => ?_
    subst heq
    dsimp only
    cases s.answerAt q with
    | ok t' =>
      simp only [Except.ok.injEq, LocalZone.mk.injEq, region_inj, true_and, and_true]
    | error f =>
      -- what stands in for the local zone has a warning, and no place
      dsimp only
      split_ifs <;> simp only [Except.ok.injEq, LocalZone.mk.injEq, reduceCtorEq, and_false]

/-- The same under a condition without which no place is asked. -/
theorem and_loadsLocal_iff {made : Prop} [Decidable made] :
    made ∧ s.LoadsLocal p t ↔
      p ∈ s.obtained (if made then s.localPlace?.toList else []) ∧ s.answerAt p = .ok t := by
  rw [loadsLocal_iff]
  split_ifs with hmade
  · exact and_iff_right hmade
  · exact ⟨fun h => absurd h.1 hmade, fun h => absurd h.1 List.not_mem_nil⟩

/-- The zones of keys are loaded if that of the first key is, and then the others. -/
theorem loadZones_cons_eq_ok_iff {key : String} {rest : List String} {zones : List NamedZone} :
    (s.loadZones (key :: rest)).1 = .ok zones ↔
      ∃ t others, s.answerAt (.database key) = .ok t ∧ (s.loadZones rest).1 = .ok others ∧
        zones = region key t :: others := by
  rw [loadZones_eq, loadZones_eq, List.mapM_cons]
  cases s.answerAt (.database key) with
  | error f => exact ⟨nofun, nofun⟩
  | ok t =>
    cases rest.mapM fun key => (s.answerAt (.database key)).map (region key) with
    | error f => exact ⟨nofun, nofun⟩
    | ok others =>
      constructor
      · exact fun h => ⟨t, others, rfl, rfl, (Except.ok.inj h).symm⟩
      · rintro ⟨t', others', ht, hothers, rfl⟩
        obtain rfl := Except.ok.inj ht
        obtain rfl := Except.ok.inj hothers
        rfl

/-- The zones of the first few keys are loaded as they are obtained. -/
theorem exists_loadZones_iff {keys : List String} :
    (∃ n zones, (s.loadZones (keys.take n)).1 = .ok zones ∧
        ∃ key, p = .database key ∧ region key t ∈ zones) ↔
      p ∈ s.obtained (keys.map .database) ∧ s.answerAt p = .ok t := by
  induction keys with
  | nil =>
    constructor
    · rintro ⟨n, zones, hzones, key, -, hmem⟩
      rw [List.take_nil] at hzones
      obtain rfl := Except.ok.inj hzones
      exact absurd hmem List.not_mem_nil
    · exact fun h => absurd h.1 List.not_mem_nil
  | cons first rest ih =>
    rw [List.map_cons]
    constructor
    · rintro ⟨n, zones, hzones, key, rfl, hmem⟩
      cases n with
      | zero =>
        obtain rfl := Except.ok.inj hzones
        exact absurd hmem List.not_mem_nil
      | succ n =>
        obtain ⟨t', others, hfirst, hothers, rfl⟩ := loadZones_cons_eq_ok_iff.mp hzones
        rw [obtained_cons_of_ok hfirst, List.mem_cons, or_and_right]
        rcases List.mem_cons.mp hmem with heq | hmem
        · obtain ⟨rfl, rfl⟩ := region_inj.mp heq
          exact Or.inl ⟨rfl, hfirst⟩
        · exact Or.inr (ih.mp ⟨n, others, hothers, key, rfl, hmem⟩)
    · rintro ⟨hmem, hanswer⟩
      cases hfirst : s.answerAt (.database first) with
      | error f =>
        rw [obtained_cons_of_error hfirst] at hmem
        exact absurd hmem List.not_mem_nil
      | ok t' =>
        rw [obtained_cons_of_ok hfirst] at hmem
        rcases List.mem_cons.mp hmem with rfl | hmem
        · exact ⟨1, [region first t], loadZones_cons_eq_ok_iff.mpr ⟨t, [], hanswer, rfl, rfl⟩,
            first, rfl, List.mem_singleton_self _⟩
        · obtain ⟨n, zones, hzones, key, rfl, hkey⟩ := ih.mpr ⟨hmem, hanswer⟩
          exact ⟨n + 1, region first t' :: zones,
            loadZones_cons_eq_ok_iff.mpr ⟨t', zones, hfirst, hzones, rfl⟩, key, rfl,
            List.mem_cons_of_mem _ hkey⟩

/-- The zone of a key is the answer for its place, unless the key is empty. -/
theorem named_fst (s : ZoneStore) (key : String) :
    (s.named key).1 =
      if key = "" then .error (.zoneNotFound key emptyKey)
      else (s.answerAt (.database key)).map (region key) := by
  rw [named]
  split_ifs
  · rfl
  · rw [loadZone_eq]

/-- **What a step loads is what it obtains.** -/
theorem loads_iff : s.Loads p t a ↔ p ∈ s.obtained (s.asked a) ∧ s.answerAt p = .ok t := by
  cases a with
  | named key =>
    rw [Loads, asked, named_fst]
    split_ifs with hempty
    · exact ⟨fun h => absurd h.2 nofun, fun h => absurd h.1 List.not_mem_nil⟩
    · rw [mem_obtained_singleton_iff, eq_comm]
      refine and_congr_right fun heq => ?_
      subst heq
      cases s.answerAt (.database key) with
      | ok t' =>
        simp only [Except.map, Except.ok.injEq, region_inj, true_and]
      | error f => exact ⟨nofun, nofun⟩
  | localZone => exact loadsLocal_iff
  | now | localTime => exact and_loadsLocal_iff
  | catalog localKey keys names => exact exists_loadZones_iff
  | setLocalName | clearLocalName | putFile | deleteFile | putZone =>
    exact ⟨False.elim, fun h => absurd h.1 List.not_mem_nil⟩

/-! ### What a step remembers -/

/-- A step that loads something is a question. -/
theorem isChange_of_loads (h : s.Loads p t a) : a.isChange = false := by
  cases a with
  | named | localZone | now | localTime | catalog => rfl
  | setLocalName | clearLocalName | putFile | deleteFile | putZone => exact h.elim

/-- A change leaves alone what has been loaded. -/
theorem kept_step_of_isChange (h : a.isChange = true) : (s.step a).2.kept = s.kept := by
  cases a with
  | named | localZone | now | localTime | catalog => cases h
  | setLocalName | clearLocalName | putFile | deleteFile | putZone =>
    funext q
    cases q <;> rfl

/-- **What a step loads is kept after it.** -/
theorem kept_step_of_loads (h : s.Loads p t a) : (s.step a).2.kept p = some t := by
  obtain ⟨hmem, hanswer⟩ := loads_iff.mp h
  rw [step_snd_of_question (isChange_of_loads h), kept_loadAll, if_pos hmem, hanswer]
  rfl

/-- What a step does not load stays as it was, kept or not. -/
theorem kept_step_of_not_loads (h : ∀ t, ¬s.Loads p t a) : (s.step a).2.kept p = s.kept p := by
  cases hquestion : a.isChange with
  | true => rw [kept_step_of_isChange hquestion]
  | false =>
    rw [step_snd_of_question hquestion, kept_loadAll]
    refine if_neg fun hmem => ?_
    obtain ⟨t, hanswer⟩ := exists_of_mem_obtained hmem
    exact h t (loads_iff.mpr ⟨hmem, hanswer⟩)

/-- **A step loads what is kept**, and nothing else. -/
theorem eq_of_loads_of_kept (h : s.Loads p t' a) (hkept : s.kept p = some t) : t' = t := by
  have hanswer := (loads_iff.mp h).2
  rw [answerAt_of_kept hkept] at hanswer
  exact (Except.ok.inj hanswer).symm

/-- What is kept stays so through a step. -/
theorem kept_step (h : s.kept p = some t) : (s.step a).2.kept p = some t := by
  by_cases hloads : ∃ t', s.Loads p t' a
  · obtain ⟨t', ht'⟩ := hloads
    rw [kept_step_of_loads ht', eq_of_loads_of_kept ht' h]
  · rw [kept_step_of_not_loads (not_exists.mp hloads), h]

/-- **A question that loads nothing does nothing to the store.** -/
theorem step_snd_eq_self (hquestion : a.isChange = false) (h : ∀ p t, ¬s.Loads p t a) :
    (s.step a).2 = s := by
  rw [step_snd_of_question hquestion]
  refine loadAll_eq_self (List.eq_nil_iff_forall_not_mem.mpr fun p hmem => ?_)
  obtain ⟨t, hanswer⟩ := exists_of_mem_obtained hmem
  exact h p t (loads_iff.mpr ⟨hmem, hanswer⟩)

/-! ### What a run remembers -/

theorem run_cons (s : ZoneStore) (a : Step) (rest : List Step) :
    s.run (a :: rest) =
      ((s.step a).1 :: ((s.step a).2.run rest).1, ((s.step a).2.run rest).2) :=
  rfl

theorem run_append (s : ZoneStore) (steps steps' : List Step) :
    s.run (steps ++ steps') =
      ((s.run steps).1 ++ ((s.run steps).2.run steps').1, ((s.run steps).2.run steps').2) := by
  induction steps generalizing s with
  | nil => rfl
  | cons a rest ih => rw [List.cons_append, run_cons, run_cons, ih, List.cons_append]

theorem length_run (s : ZoneStore) (steps : List Step) : (s.run steps).1.length = steps.length := by
  induction steps generalizing s with
  | nil => rfl
  | cons a rest ih => exact congrArg Nat.succ (ih (s.step a).2)

/-- **What is kept stays so**, through any run. -/
theorem kept_run (h : s.kept p = some t) (steps : List Step) : (s.run steps).2.kept p = some t := by
  induction steps generalizing s with
  | nil => exact h
  | cons a rest ih => exact ih (kept_step h)

/-- **What no step of a run loads is not kept**, if it was not kept before. -/
theorem kept_run_eq_none {steps : List Step} (hkept : s.kept p = none)
    (h : ∀ earlier a later t, steps = earlier ++ a :: later → ¬(s.run earlier).2.Loads p t a) :
    (s.run steps).2.kept p = none := by
  induction steps generalizing s with
  | nil => exact hkept
  | cons a rest ih =>
    have hnot : ∀ t, ¬s.Loads p t a := fun t => h [] a rest t rfl
    have hfirst : (s.step a).2.kept p = none := by rw [kept_step_of_not_loads hnot, hkept]
    refine ih hfirst fun earlier b later t hrest => ?_
    exact h (a :: earlier) b later t (by rw [hrest, List.cons_append])

/-- A change does to the surroundings of a store what it does to the store. -/
theorem surroundings_step_of_isChange (h : a.isChange = true) :
    (s.step a).2.surroundings = (s.surroundings.step a).2 := by
  cases a with
  | named | localZone | now | localTime | catalog => cases h
  | setLocalName | clearLocalName | putFile | deleteFile | putZone => rfl

/-- **The surroundings are what the changes have made of them**, whatever was asked in between. -/
theorem surroundings_run (s : ZoneStore) (steps : List Step) :
    (s.run steps).2.surroundings = (s.surroundings.run (steps.filter Step.isChange)).2 := by
  induction steps generalizing s with
  | nil => rfl
  | cons a rest ih =>
    have hrun : (s.run (a :: rest)).2 = ((s.step a).2.run rest).2 := rfl
    rw [hrun, ih]
    cases h : a.isChange with
    | true => rw [List.filter_cons_of_pos h, surroundings_step_of_isChange h]; rfl
    | false =>
      rw [List.filter_cons_of_neg (by rw [h]; exact Bool.false_ne_true), step_snd_of_question h,
        surroundings_loadAll]

/-- **The present time is told in the zone that is loaded for it.** -/
theorem now_fst_of_loads {clock : Instant} (h : s.Loads p t (.now clock)) :
    (s.now clock).1 =
      Time.reading { instant := clock, offset := .localZone
                     catalog := localCatalog (.region t) } := by
  obtain ⟨hadmitted, -, hzone⟩ := h
  have hnow : (s.now clock).1 = (s.present (.ok clock)).1 >>= Time.reading := rfl
  rw [hnow, (present_fst_eq_ok_iff hadmitted).mpr ⟨_, hzone, rfl⟩]
  rfl

/-- A question **in vain**: for a zone that cannot be had, or for the local zone where that fails or
is Universal Time. -/
def InVain (s : ZoneStore) : Step → Prop
  | .named key => ∀ z, (s.named key).1 ≠ .ok z
  | .localZone | .now _ | .localTime _ => ∀ z, s.localZone.1 = .ok z → z.found = .utc
  | .catalog _ _ _ => False
  | .setLocalName _ | .clearLocalName | .putFile _ _ | .deleteFile _ | .putZone _ _ => False

/-- A question in vain loads nothing. -/
theorem not_loads_of_inVain (h : s.InVain a) : a.isChange = false ∧ ∀ p t, ¬s.Loads p t a := by
  have hlocal {p : Place} {t : Timeline} (hloads : s.LoadsLocal p t)
      (hvain : ∀ z, s.localZone.1 = .ok z → z.found = .utc) : False := by
    have hutc : Zone.region t = Zone.utc := congrArg NamedZone.zone (hvain _ hloads.2)
    exact absurd hutc nofun
  cases a with
  | named key => exact ⟨rfl, fun p t hloads => h _ hloads.2⟩
  | localZone => exact ⟨rfl, fun p t hloads => hlocal hloads h⟩
  | now clock => exact ⟨rfl, fun p t hloads => hlocal hloads.2 h⟩
  | localTime args => exact ⟨rfl, fun p t hloads => hlocal hloads.2 h⟩
  | catalog | setLocalName | clearLocalName | putFile | deleteFile | putZone => exact h.elim

/-- **A question in vain might as well not have been asked**: all other answers are the same without
it. -/
theorem run_eraseIdx_of_inVain {before : List Step} (h : (s.run before).2.InVain a)
    (after : List Step) :
    (s.run (before ++ after)).1 = (s.run (before ++ a :: after)).1.eraseIdx before.length := by
  obtain ⟨hquestion, hnothing⟩ := not_loads_of_inVain h
  have hsame : ((s.run before).2.step a).2 = (s.run before).2 := step_snd_eq_self hquestion hnothing
  rw [run_append, run_append, run_cons, hsame]
  dsimp only
  rw [List.eraseIdx_append_of_length_le (length_run s before).le, length_run, Nat.sub_self,
    List.eraseIdx_cons_zero]

/-- **What a run remembers.** In a run that starts with nothing loaded, only changes change what is
in the places. All loads from one place are of the same zone, and it is the one that was there at
the first of them; a present time for which it is loaded is told in it. A zone or a local zone that
was asked for in vain leaves no trace: without the question all other answers are the same. -/
theorem loads_of_run (database files : List (String × Entry)) (localName : Option String)
    (defaultPath : String) (room : Nat) (before : List Step) (a : Step) :
    let start : ZoneStore := { database, files, localName, defaultPath, room }
    let s := (start.run before).2
    s.surroundings = (start.run (before.filter Step.isChange)).2 ∧
      (∀ p t, s.Loads p t a →
        (∀ between b t', (start.run (before ++ a :: between)).2.Loads p t' b → t' = t) ∧
          ((∀ earlier c later t', before = earlier ++ c :: later →
              ¬(start.run earlier).2.Loads p t' c) →
            s.held p = .ok t) ∧
          ∀ clock, a = .now clock →
            (s.now clock).1 =
              Time.reading { instant := clock, offset := .localZone
                             catalog := localCatalog (.region t) }) ∧
      (s.InVain a → ∀ after,
        (start.run (before ++ after)).1 =
          (start.run (before ++ a :: after)).1.eraseIdx before.length) := by
  intro start s
  refine ⟨surroundings_run start before,
    fun p t hloads => ⟨fun between b t' hagain => ?_, fun hfirst => ?_, ?_⟩, run_eraseIdx_of_inVain⟩
  · have hkept : (start.run (before ++ a :: between)).2.kept p = some t := by
      rw [run_append]
      exact kept_run (kept_step_of_loads hloads) between
    exact eq_of_loads_of_kept hagain hkept
  · have hempty : start.kept p = none := by cases p <;> rfl
    have hanswer := (loads_iff.mp hloads).2
    rwa [answerAt_of_not_kept (kept_run_eq_none hempty hfirst)] at hanswer
  · rintro clock rfl
    exact now_fst_of_loads hloads

/-- The variable first names no zone, in vain. Then a zone is loaded by its key, and replaced in the
database; and once the variable names it, the local zone is still the one that was loaded. -/
theorem loads_of_run_home :
    let early : Timeline :=
      { initial := { utcOffset := 3600, abbreviation := "A", isDst := false } }
    let late : Timeline :=
      { initial := { utcOffset := 7200, abbreviation := "B", isDst := false } }
    let start : ZoneStore := { database := [("Home", .timeline early)] }
    let before : List Step := [.setLocalName "Nowhere", .localZone]
    let between : List Step := [.putZone "Home" (.timeline late), .setLocalName ":Home"]
    let s := (start.run (before ++ .named "Home" :: between)).2
    ((start.run before).2.Loads (.database "Home") early (.named "Home") ∧
        (start.run before).2.held (.database "Home") = .ok early) ∧
      (s.held (.database "Home") = .ok late ∧ s.Loads (.database "Home") early .localZone ∧
        ∀ t', s.Loads (.database "Home") t' .localZone → t' = early) ∧
      (start.run [.setLocalName "Nowhere"]).2.InVain .localZone ∧
        (start.run (.setLocalName "Nowhere" :: .named "Home" :: between)).1 =
          (start.run (before ++ .named "Home" :: between)).1.eraseIdx 1 := by
  intro early late start before between s
  have hloads : (start.run before).2.Loads (.database "Home") early (.named "Home") :=
    ⟨rfl, by decide⟩
  have hagain : s.Loads (.database "Home") early .localZone := ⟨by decide, by decide⟩
  have hvain : (start.run [.setLocalName "Nowhere"]).2.InVain .localZone := by
    intro z hz
    have hutc : (start.run [.setLocalName "Nowhere"]).2.localZone.1 =
        .ok { found := .utc, warned := true } := by decide
    rw [hutc] at hz
    exact congrArg LocalZone.found (Except.ok.inj hz).symm
  obtain ⟨-, hkeeps, -⟩ :=
    loads_of_run [("Home", .timeline early)] [] none "/etc/localtime" 200 before (.named "Home")
  obtain ⟨hsame, hfirst, -⟩ := hkeeps _ _ hloads
  obtain ⟨-, -, herase⟩ :=
    loads_of_run [("Home", .timeline early)] [] none "/etc/localtime" 200
      [.setLocalName "Nowhere"] .localZone
  refine ⟨⟨hloads, hfirst ?_⟩, ⟨by decide, hagain, hsame between .localZone⟩, hvain,
    herase hvain (.named "Home" :: between)⟩
  -- neither of the two steps before loads anything under this key
  intro earlier c later t' hsplit hloads'
  rcases earlier with _ | ⟨first, _ | ⟨second, rest⟩⟩
  · obtain ⟨rfl, -⟩ := List.cons.inj hsplit
    exact hloads'
  · obtain ⟨rfl, hrest⟩ := List.cons.inj hsplit
    obtain ⟨rfl, -⟩ := List.cons.inj hrest
    exact (not_loads_of_inVain hvain).2 _ _ hloads'
  · exact absurd (congrArg List.length hsplit) (by simp [before])

end ZoneStore

end CivilTime
