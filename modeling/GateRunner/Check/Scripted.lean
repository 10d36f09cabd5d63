import GateRunner.Check.Behaviour

/-!
# Checks whose answers are laid down

A scripted check says and does what its script has for it, and looks at nothing. Runs are rehearsed with such checks:
how long a call takes and how it ends, by a value, an error or a crash, stands in the script.
-/

namespace GateRunner

/-- What a scripted check answers. -/
structure CheckScript where
  id : CheckId
  title : String
  dependencies : List CheckId
  applicable : Bool
  whyNot : String
  extent : Attempt (Option Extent)
  outcome : Attempt CheckResult
  evaluateMillis : Nat
  /-- How remediation ends, if it is offered. -/
  fix : Option (Attempt Bool)
  fixMillis : Nat

namespace CheckScript

/-- The check that follows the script. -/
def toCheck (s : CheckScript) : Check :=
  { id := s.id, title := s.title, dependencies := s.dependencies, applies := fun _ => s.applicable,
    whyNot := fun _ => s.whyNot, measure := fun _ => s.extent, offersFix := s.fix.isSome,
    fix := fun project => (s.fix.getD (.done false), project), evaluate := fun project => (s.outcome, project),
    fixMillis := s.fixMillis, evaluateMillis := s.evaluateMillis }

/-- The check that follows only what the script has on applicability and evaluation. -/
def toPlainCheck (s : CheckScript) : Check :=
  .plain s.id s.title (fun _ => s.applicable) (fun project => (s.outcome, project)) s.evaluateMillis

end CheckScript

end GateRunner
