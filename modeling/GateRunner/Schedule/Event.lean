import GateRunner.Check.Result

/-!
# What is to be seen of a run

The events of a run, in the order in which an observer hears of them. Every result is heard of exactly once, as the
completion of its check.
-/

namespace GateRunner

/-- A step of a run. -/
inductive Event
  /-- The configuration switched a check off; it gets no result. -/
  | switchedOff (check : CheckId) (reason : String)
  /-- A check does not apply. -/
  | notApplicable (result : CheckResult)
  /-- That many checks will be scheduled. -/
  | total (checks : Nat)
  /-- These checks will be scheduled. -/
  | pending (checks : List CheckId)
  /-- A check starts. -/
  | started (check : CheckId)
  /-- A check has its result. -/
  | finished (result : CheckResult)
deriving DecidableEq, Repr

/-- The check that an event says has started. -/
def Event.started? : Event → Option CheckId
  | .started id => some id
  | _ => none

/-- The result that an event says a check has. -/
def Event.finished? : Event → Option CheckResult
  | .finished r => some r
  | _ => none

end GateRunner
