import CivilTime.Path
import CivilTime.Time

/-!
# Zone stores

A **zone store** takes its zones from outside: from a database of zones under keys, and
from files. Which zone is the local one is settled by a variable of the environment and,
where that is not set, by a default file. All of this may change between two questions.

What the store has loaded it keeps: a zone that was loaded once is answered from then on,
whatever becomes of its entry, and only what could not be loaded is tried again.

Not everything under a key or in a file is a zone. The loader **refuses** what is none at all; but
over data that only begin as those of a zone it **breaks down** (`CivilTime.Fault`), and so it does
where there is no room to look for a key. A store answers for what is refused, and passes on a
breakdown.

The store is a state machine. `CivilTime.ZoneStore.Step` lists the questions that can be put
to it and the changes that can happen around it, `CivilTime.ZoneStore.step` takes one step
and `CivilTime.ZoneStore.run` any number.

* `CivilTime.ZoneStore.loadZone`, `CivilTime.ZoneStore.loadFile`: the two ways to a zone;
* `CivilTime.ZoneStore.named`: a zone by its key;
* `CivilTime.ZoneStore.localZone`: the local zone;
* `CivilTime.ZoneStore.present`: the present time in it.
-/

namespace CivilTime

/-- What a database or a file system has in a place. -/
inductive ZoneStore.Entry
  | timeline (t : Timeline)
  /-- Something that is no zone. -/
  | malformed
  /-- Something over which the loader breaks down. -/
  | faulty (kind : Fault)
  /-- Something that cannot be opened. -/
  | unreadable
  deriving DecidableEq, Repr

/-- A zone under the name it was found by. -/
structure NamedZone where
  key : String
  zone : Zone
  deriving DecidableEq, Repr

/-- Universal Time under its name. -/
def NamedZone.utc : NamedZone :=
  { key := "UTC", zone := .utc }

/-- A store of zones and its surroundings. -/
structure ZoneStore where
  /-- The zone database. -/
  database : List (String × ZoneStore.Entry) := []
  /-- The files. -/
  files : List (String × ZoneStore.Entry) := []
  /-- The value of the variable that names the local zone, if it is set. -/
  localName : Option String := none
  /-- The file of the local zone where the variable is not set. -/
  defaultPath : String := "/etc/localtime"
  /-- How many parts of a key there is room for, to look for one that the database does not have. -/
  room : Nat := 200
  /-- The zones of the database that have been loaded. -/
  loadedZones : List (String × Timeline) := []
  /-- The zones that have been loaded from files. -/
  loadedFiles : List (String × Timeline) := []
  deriving DecidableEq, Repr

namespace ZoneStore

/-! ### Loading -/

/-- Why an empty key cannot be had. -/
def emptyKey : String := "empty time zone key"

/-- Why a key that the database refuses cannot be had. -/
def invalidKey : String := "invalid time zone key"

/-- What the database has under a key. -/
def find (s : ZoneStore) (key : String) : Except Failure Timeline :=
  if Path.isPlainKey key then
    match s.database.lookup key with
    | some (.timeline t) => .ok t
    | some .malformed | some .unreadable => .error (.zoneNotFound key invalidKey)
    | some (.faulty kind) => .error (.fault kind)
    | none =>
      .error (if s.room < Path.depth key then .fault .tooDeep
        else .zoneNotFound key Catalog.unknownZone)
  else .error (.zoneNotFound key invalidKey)

/-- What a file holds. -/
def open? (s : ZoneStore) (path : String) : Except Failure Timeline :=
  match s.files.lookup path with
  | some (.timeline t) => .ok t
  | some .malformed => .error .badValue
  | some (.faulty kind) => .error (.fault kind)
  | some .unreadable | none => .error .system

/-- **Loading a zone of the database**: what was loaded before, and else what the database
has now, which is then kept. -/
def loadZone (s : ZoneStore) (key : String) : Except Failure Timeline × ZoneStore :=
  match s.loadedZones.lookup key with
  | some t => (.ok t, s)
  | none =>
    match s.find key with
    | .ok t => (.ok t, { s with loadedZones := (key, t) :: s.loadedZones })
    | .error f => (.error f, s)

/-- **Loading a zone from a file**: what was loaded before, and else what the file holds
now, which is then kept. -/
def loadFile (s : ZoneStore) (path : String) : Except Failure Timeline × ZoneStore :=
  match s.loadedFiles.lookup path with
  | some t => (.ok t, s)
  | none =>
    match s.open? path with
    | .ok t => (.ok t, { s with loadedFiles := (path, t) :: s.loadedFiles })
    | .error f => (.error f, s)

/-- A timeline under the name it was found by. -/
def region (key : String) (t : Timeline) : NamedZone :=
  { key, zone := .region t }

/-! ### Questions -/

/-- **The zone of a key.** -/
def named (s : ZoneStore) (key : String) : Except Failure NamedZone × ZoneStore :=
  if key = "" then (.error (.zoneNotFound key emptyKey), s)
  else
    let (result, s) := s.loadZone key
    (result.map (region key), s)

/-- The local zone, and whether it stands in for one that could not be had. -/
structure LocalZone where
  found : NamedZone
  /-- A warning was given: the variable named no zone. -/
  warned : Bool := false
  deriving DecidableEq, Repr

/-- The value of the variable, without one colon in front. -/
def withoutColon (value : String) : String :=
  match value.toList with
  | ':' :: rest => String.ofList rest
  | _ => value

/-- The local zone of a value of the variable: an absolute path leads to a file, anything
else is a key. What is unusable stands for Universal Time, with a warning. -/
def localZoneOf (s : ZoneStore) (value : String) : Except Failure LocalZone × ZoneStore :=
  let name := withoutColon value
  if name = "" then (.ok { found := .utc }, s)
  else
    match if Path.isAbsolute name then s.loadFile name else s.loadZone name with
    | (.ok t, s) => (.ok { found := region name t }, s)
    | (.error f, s) =>
      (if f.isUnusable then .ok { found := .utc, warned := true } else .error f, s)

/-- **The local zone.** Without the variable it is that of the default file, which has to
be in order if it exists at all, and else Universal Time. -/
def localZone (s : ZoneStore) : Except Failure LocalZone × ZoneStore :=
  match s.localName with
  | some value => s.localZoneOf value
  | none =>
    if (s.files.lookup s.defaultPath).isSome then
      let (result, s) := s.loadFile s.defaultPath
      (result.map fun t => { found := region s.defaultPath t }, s)
    else (.ok { found := .utc }, s)

/-- The local zone for a computation that may fail in its turn. -/
def withLocalZone {α : Type} (s : ZoneStore) (f : Zone → Except Failure α) :
    Except Failure α × ZoneStore :=
  let (answer, s) := s.localZone
  (answer.bind fun z => f z.found.zone, s)

/-- The catalog in which the local zone is the one just found. -/
def localCatalog (z : Zone) : Catalog :=
  { localZone := z }

/-- **The present time** in the local zone, by a clock that may fail. A time stamp that no time can
have is found out before the zone is looked up. -/
def present (s : ZoneStore) (clock : Except Failure Instant) : Except Failure Time × ZoneStore :=
  match clock >>= Time.ofInstant {} .localZone with
  | .error f => (Time.orNoPresent (.error f), s)
  | .ok t =>
    let (result, s) := s.withLocalZone fun z =>
      Time.ofInstant (localCatalog z) .localZone t.instant
    (Time.orNoPresent result, s)

/-- The reading of the present time. -/
def now (s : ZoneStore) (i : Instant) : Except Failure Reading × ZoneStore :=
  let (result, s) := s.present (.ok i)
  (result >>= Time.reading, s)

/-- **The time of an argument list** in the local zone. The list is read before the zone is
looked up. -/
def localTime (s : ZoneStore) (args : List Argument) : Except Failure Reading × ZoneStore :=
  match ArgumentList.normalize args >>= WallTime.check with
  | .error f => (.error f, s)
  | .ok w =>
    s.withLocalZone fun z =>
      Time.ofWallTime (localCatalog z) .localZone false w >>= Time.reading

/-! ### Catalogs -/

/-- The zones of keys, each under its key; the first that cannot be loaded ends it. -/
def loadZones (s : ZoneStore) : List String → Except Failure (List NamedZone) × ZoneStore
  | [] => (.ok [], s)
  | key :: keys =>
    match s.loadZone key with
    | (.error f, s) => (.error f, s)
    | (.ok t, s) =>
      let (rest, s) := s.loadZones keys
      (rest.map (region key t :: ·), s)

/-- What a catalog answers: its local zone, and what it has under the names asked for. -/
structure CatalogAnswer where
  localZone : NamedZone
  named : List (Except Failure NamedZone)

/-- **A catalog of zones of the database**, with the first of them as the local zone. -/
def catalog (s : ZoneStore) (localKey : String) (keys names : List String) :
    Except Failure CatalogAnswer × ZoneStore :=
  let (loaded, s) := s.loadZones (localKey :: keys)
  let answer := loaded.bind fun zones => do
    let table : Catalog := { zones := zones.map fun z => (z.key, z.zone) }
    let table ← table.withLocal localKey
    return {
      localZone := { key := localKey, zone := table.localZone }
      named := names.map fun name => (table.named name).map fun zone => { key := name, zone } }
  (answer, s)

/-! ### Runs -/

/-- A question put to a store, or a change around it. -/
inductive Step
  | named (key : String)
  | localZone
  | now (clock : Instant)
  | localTime (args : List Argument)
  | catalog (localKey : String) (keys names : List String)
  /-- The variable is set. -/
  | setLocalName (value : String)
  /-- The variable is removed. -/
  | clearLocalName
  | putFile (path : String) (entry : Entry)
  | deleteFile (path : String)
  | putZone (key : String) (entry : Entry)
  deriving DecidableEq, Repr

/-- What a step answers. -/
inductive Answer
  | done
  | zone (result : Except Failure NamedZone)
  | localZone (result : Except Failure LocalZone)
  | reading (result : Except Failure Reading)
  | catalog (result : Except Failure CatalogAnswer)

/-- A table with an entry put in, in place of any under the same name. -/
def put {α : Type} (table : List (String × α)) (name : String) (a : α) : List (String × α) :=
  (name, a) :: table.filter fun entry => entry.1 ≠ name

/-- **One step.** -/
def step (s : ZoneStore) : Step → Answer × ZoneStore
  | .named key => (s.named key).map .zone id
  | .localZone => s.localZone.map .localZone id
  | .now clock => (s.now clock).map .reading id
  | .localTime args => (s.localTime args).map .reading id
  | .catalog localKey keys names => (s.catalog localKey keys names).map .catalog id
  | .setLocalName value => (.done, { s with localName := some value })
  | .clearLocalName => (.done, { s with localName := none })
  | .putFile path entry => (.done, { s with files := put s.files path entry })
  | .deleteFile path => (.done, { s with files := s.files.filter fun e => e.1 ≠ path })
  | .putZone key entry => (.done, { s with database := put s.database key entry })

/-- **A run**: the answers of one step after another, and the store that is left. -/
def run (s : ZoneStore) : List Step → List Answer × ZoneStore
  | [] => ([], s)
  | a :: rest =>
    let (answer, s) := s.step a
    let (answers, s) := s.run rest
    (answer :: answers, s)

end ZoneStore

end CivilTime
