import GateRunner.Check.Id
import GateRunner.Check.Verdict
import GateRunner.Check.Extent
import GateRunner.Time.Duration

/-!
# Results of checks

What is recorded about one check after a run: how it came out, how long it took, what it said, and, where it did not
run, why. A result made for a check that was left out takes no time and says its reason as its output.
-/

namespace GateRunner

/-- Why a check did not run. -/
inductive Omission
  /-- The project is not of the kind the check is for. -/
  | notApplicable
  /-- A check it depends on finished without passing. -/
  | dependencyFailed (dependency : CheckId)
  /-- The run was stopped after a failure. -/
  | failFast
deriving DecidableEq, Repr

/-- The reason as a text. -/
def Omission.text : Omission → String
  | .notApplicable => "not applicable"
  | .dependencyFailed dependency => "dependency failed: " ++ dependency.written
  | .failFast => "stopped by fail-fast"

/-- The verdict on a check left out for a reason. -/
def Omission.verdict : Omission → Verdict
  | .notApplicable => .notApplicable
  | _ => .skipped

/-- What is known of one check after a run. -/
structure CheckResult where
  check : CheckId
  verdict : Verdict
  duration : Duration
  output : String
  error : Option String
  advice : Option String
  fixed : Bool
  omission : Option Omission
  extent : Option Extent
deriving DecidableEq, Repr

namespace CheckResult

/-- A result with nothing but a verdict and a time. -/
def new (check : CheckId) (verdict : Verdict) (duration : Duration) : CheckResult :=
  { check, verdict, duration, output := "", error := none, advice := none, fixed := false, omission := none,
    extent := none }

/-- The result with another output. -/
def withOutput (r : CheckResult) (output : String) : CheckResult := { r with output }

/-- The result with an error message. -/
def withError (r : CheckResult) (error : String) : CheckResult := { r with error := some error }

/-- The result with advice on how to mend the failure. -/
def withAdvice (r : CheckResult) (advice : String) : CheckResult := { r with advice := some advice }

/-- The result with the extent of what was examined. -/
def withExtent (r : CheckResult) (extent : Extent) : CheckResult := { r with extent := some extent }

/-- A gate that was met. -/
def passed (check : CheckId) (duration : Duration) : CheckResult := new check .passed duration

/-- A gate that was not met, with the reason. -/
def failed (check : CheckId) (duration : Duration) (error : String) : CheckResult :=
  (new check .failed duration).withError error

/-- A gate that was met with something to note. -/
def warned (check : CheckId) (duration : Duration) : CheckResult := new check .warned duration

/-- A gate that could not be evaluated. -/
def errored (check : CheckId) (duration : Duration) (error : String) : CheckResult :=
  (new check .error duration).withError error

/-- A check that did not run. -/
def skipped (check : CheckId) (reason : Omission) : CheckResult :=
  { new check reason.verdict .zero with output := reason.text, omission := some reason }

/-- Whether the gate was met. -/
def isPassed (r : CheckResult) : Bool := r.verdict = .passed

/-- Whether the gate was evaluated and not met. -/
def isFailed (r : CheckResult) : Bool := r.verdict = .failed

/-- The result on one line, as `python:tests: passed (0.25s)`. -/
def line (r : CheckResult) : String :=
  r.check.written ++ ": " ++ r.verdict.label ++ " (" ++ r.duration.seconds2 ++ "s)"

end CheckResult

end GateRunner
