import GateRunner.Check.Profile
import GateRunner.Check.Result
import GateRunner.Project.Scan

/-!
# What a check does

A check is a record of its answers to a runner: how it is called, what it depends on, whether it applies to a project,
and what its evaluation and its remediation give and do to the project. A call can end in three ways: with a value,
with an error, or by crashing. How long the two long calls take is part of the record too, in milliseconds.

A `BoundCheck` is a check bound for one run. Its id and dependencies are the ones it had when it was bound.
-/

namespace GateRunner

/-- How a call into a check ends. -/
inductive Attempt (α : Type)
  /-- With a value. -/
  | done (value : α)
  /-- With an error, as a chain of descriptions from the outermost one to the cause. -/
  | failed (chain : List String)
  /-- By crashing, with a message if there was one. -/
  | crashed (message : Option String)
deriving DecidableEq, Repr

/-- The descriptions of an error as one text. -/
def chainText (chain : List String) : String := ": ".intercalate chain

/-- What a check answers and does. -/
structure Check where
  id : CheckId
  title : String
  dependencies : List CheckId
  applies : Project → Bool
  /-- The explanation where the check does not apply. -/
  whyNot : Project → String
  /-- The extent of what the check will examine, if it can say. -/
  measure : Project → Attempt (Option Extent)
  offersFix : Bool
  /-- Remediation: whether it changed anything, and the project after it. -/
  fix : Project → Attempt Bool × Project
  /-- Evaluation: the result, and the project after it. -/
  evaluate : Project → Attempt CheckResult × Project
  fixMillis : Nat
  evaluateMillis : Nat

/-- The reason that is given when a check has no reason of its own. -/
def Check.defaultWhyNot : String := "not applicable to this project"

/-- A check that has nothing to it but an id, a label, applicability and an evaluation. -/
def Check.plain (id : CheckId) (title : String) (applies : Project → Bool)
    (evaluate : Project → Attempt CheckResult × Project) (evaluateMillis : Nat) : Check :=
  { id, title, dependencies := [], applies, whyNot := fun _ => Check.defaultWhyNot,
    measure := fun _ => .done none, offersFix := false, fix := fun p => (.done false, p), evaluate,
    fixMillis := 0, evaluateMillis }

/-- A check bound for a run. -/
structure BoundCheck where
  id : CheckId
  dependencies : List CheckId
  check : Check

/-- A fresh check, bound. -/
def BoundCheck.ofCheck (check : Check) : BoundCheck := ⟨check.id, check.dependencies, check⟩

/-- The profile of a bound check, as it stands. -/
def BoundCheck.profile (i : BoundCheck) : CheckProfile := ⟨i.id, i.check.title, i.dependencies, i.check.offersFix⟩

end GateRunner
