import GateRunner.Check.Behaviour

/-!
# Running one check

What a worker does with one check: remediation first, if that is wanted and offered, and then the evaluation, whatever
came of the remediation. Every way in which a call can end becomes a result, and the result goes under the id of the
bound check, whatever id it came with. The extent that the check measures fills in for one that the result lacks.

A crash of the evaluation gives a bare result: neither the remediation nor the extent is on it. What an evaluation that
gives no result took is on record: for an error the time of the evaluation, for a crash that of the remediation too.
-/

namespace GateRunner

namespace BoundCheck

/-- Whether a worker tries remediation first. -/
def attemptsFix (i : BoundCheck) (fixFirst : Bool) : Bool := fixFirst && i.check.offersFix

/-- Remediation: whether it says that it changed anything, and the project after it. An error or a crash counts as no
change, also where the call has left another project than it met. -/
def remediate (i : BoundCheck) (project : Project) : Bool × Project :=
  match i.check.fix project with
  | (.done changed, after) => (changed, after)
  | (_, after) => (false, after)

/-- The extent that the check measures, none if measuring fails. -/
def measuredExtent (i : BoundCheck) (project : Project) : Option Extent :=
  match i.check.measure project with
  | .done extent => extent
  | _ => none

/-- The result on record for an evaluation that ended without a crash. -/
def onRecord (i : BoundCheck) (fixed : Bool) (measured : Option Extent) (r : CheckResult) : CheckResult :=
  { r with check := i.id, fixed := r.fixed || fixed, extent := r.extent <|> measured }

/-- The message of a crash. -/
def crashMessage (message : Option String) : String := "check panicked: " ++ message.getD "unknown panic"

/-- How long an evaluation takes. -/
def evaluationTime (i : BoundCheck) : Duration := .ofMillis i.check.evaluateMillis

/-- How long a worker takes that evaluates a check after so many milliseconds. -/
def workTime (i : BoundCheck) (spent : Nat) : Duration := .ofMillis (spent + i.check.evaluateMillis)

/-- Evaluation after remediation that took so many milliseconds, or none: the result on record, and the project after
it. -/
def evaluate (i : BoundCheck) (fixed : Bool) (measured : Option Extent) (spent : Nat) (project : Project) :
    CheckResult × Project :=
  match i.check.evaluate project with
  | (.done r, after) => (i.onRecord fixed measured r, after)
  | (.failed chain, after) =>
    (i.onRecord fixed measured (.errored i.id i.evaluationTime (chainText chain)), after)
  | (.crashed message, after) => (.errored i.id (i.workTime spent) (crashMessage message), after)

end BoundCheck

end GateRunner
