import GateRunner.Check.Behaviour

/-!
# Checks that do not apply

A check that does not apply to the project does not run. It gets a result of its own, with the check's explanation.
-/

namespace GateRunner.WorkingSet

/-- The result of a check that does not apply. -/
def notApplicableResult (project : Project) (i : BoundCheck) : CheckResult :=
  (CheckResult.skipped i.id .notApplicable).withOutput (i.check.whyNot project)

/-- The checks that apply to a project, in their order, and the results of those that do not. -/
def splitApplicable (project : Project) (units : List BoundCheck) : List BoundCheck × List CheckResult :=
  (units.filter (fun i => i.check.applies project),
    (units.filter (fun i => !i.check.applies project)).map (notApplicableResult project))

end GateRunner.WorkingSet
