import CivilTime.Failure

/-!
# Comparisons

The six questions that can be asked of two times, and the answers to them when only one
of the two is a time: it is different from anything else, and in no order with it.
-/

namespace CivilTime

/-- A question about two values. -/
inductive Comparison
  | eq
  | ne
  | lt
  | le
  | gt
  | ge
  deriving DecidableEq, Repr

namespace Comparison

/-- The answer for two values that lie to each other like this. -/
def holds : Comparison → Ordering → Bool
  | eq, o => o.isEq
  | ne, o => o.isNe
  | lt, o => o.isLT
  | le, o => o.isLE
  | gt, o => o.isGT
  | ge, o => o.isGE

/-- The answer for a time and a value that is no time. -/
def ofStranger : Comparison → Except Failure Bool
  | eq => .ok false
  | ne => .ok true
  | lt | le | gt | ge => .error .wrongType

end Comparison

end CivilTime
