import CivilTime.Failure
import CivilTime.Zone

/-!
# Catalogs of zones

A **catalog** holds zones under their names, and knows which zone is the local one. It
never changes: what it answers once it always answers. With a catalog an offset, which
may be no more than a name, becomes a zone (`CivilTime.Catalog.zone`).
-/

namespace CivilTime

/-- Zones under their names, and a local zone. -/
structure Catalog where
  localZone : Zone := .utc
  zones : List (String × Zone) := []
  deriving DecidableEq, Repr

namespace Catalog

/-- Why a name that is in no catalog and no database cannot be had. -/
def unknownZone : String := "unknown time zone"

/-- The zone of a name. -/
def named (c : Catalog) (key : String) : Except Failure Zone :=
  match c.zones.lookup key with
  | some zone => .ok zone
  | none => .error (.zoneNotFound key unknownZone)

/-- **The zone of an offset.** Only a name can fail. -/
def zone (c : Catalog) : Offset → Except Failure Zone
  | .utc => .ok .utc
  | .fixed seconds => .ok (.fixed seconds)
  | .localZone => .ok c.localZone
  | .named key => c.named key

/-- The catalog with another of its zones as the local one. -/
def withLocal (c : Catalog) (key : String) : Except Failure Catalog := do
  return { c with localZone := ← c.named key }

end Catalog

end CivilTime
