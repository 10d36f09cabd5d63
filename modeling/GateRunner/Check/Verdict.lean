/-!
# Verdicts

The six ways a check can come out. Two of them block: the gate was evaluated and not met, or it could not be evaluated.
-/

namespace GateRunner

/-- How a check came out. -/
inductive Verdict
  /-- The gate was evaluated and met. -/
  | passed
  /-- The gate was evaluated and not met. -/
  | failed
  /-- There was something to note, which blocks nothing. -/
  | warned
  /-- The check was left out on purpose. -/
  | skipped
  /-- The project is not of the kind the check is for. -/
  | notApplicable
  /-- The gate could not be evaluated. -/
  | error
deriving DecidableEq, Repr, Inhabited

namespace Verdict

/-- Every verdict, in the order of reports. -/
def all : List Verdict := [.passed, .failed, .warned, .skipped, .notApplicable, .error]

/-- The verdict as a word. -/
def label : Verdict → String
  | .passed => "passed"
  | .failed => "failed"
  | .warned => "warned"
  | .skipped => "skipped"
  | .notApplicable => "not_applicable"
  | .error => "error"

/-- The verdict a word stands for. -/
def ofLabel? (word : String) : Option Verdict := all.find? (fun v => v.label = word)

/-- Whether the verdict keeps a run from passing. -/
def isBlocking (v : Verdict) : Bool := v = .failed || v = .error

@[simp] theorem ofLabel?_label (v : Verdict) : ofLabel? v.label = some v := by cases v <;> decide

end Verdict

end GateRunner
