import GateRunner.Check.Id

/-!
# Faults of a run

What keeps a run from giving a summary. How a gate comes out is never a fault: it is a result.
-/

namespace GateRunner

/-- Why there is no summary. -/
inductive RunError
  /-- Checks depend on each other in a circle; these can never run. -/
  | circle (checks : List CheckId)
  /-- Nothing went on while these checks were pending. -/
  | stalled (checks : List CheckId)
  /-- The workers answered for none of these checks, which were in flight. -/
  | unanswered (checks : List CheckId)
deriving DecidableEq, Repr

/-- The wording of a fault. -/
def RunError.message : RunError → String
  | .circle checks => "dependency cycle between checks: " ++ CheckId.join checks
  | .stalled checks => "scheduling stalled with pending checks: " ++ CheckId.join checks
  | .unanswered checks => "worker task lost: " ++ CheckId.join checks

end GateRunner
