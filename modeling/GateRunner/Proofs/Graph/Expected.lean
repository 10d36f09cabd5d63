import GateRunner.Proofs.Graph.Edges

/-!
# The result to expect of a check

What comes of a check when nothing stops the run follows from the graph and from what the checks come out as when they
are executed. `DependencyGraph.expected` says it by recursion on dependencies: if some dependency is not expected to
pass, the check is skipped because of the first such one, in the order of declaration; otherwise it comes out as it
does. There is no schedule in this: no slots, no order of completion.

The recursion is along dependencies and ends because the graph has no circle.
-/

namespace GateRunner

/-- A result under the id of the check that it is of, whatever id it came with. -/
def CheckResult.under (r : CheckResult) (id : CheckId) : CheckResult := { r with check := id }

@[simp] theorem CheckResult.check_under (r : CheckResult) (id : CheckId) : (r.under id).check = id := rfl

@[simp] theorem CheckResult.isFailed_under (r : CheckResult) (id : CheckId) : (r.under id).isFailed = r.isFailed := rfl

@[simp] theorem CheckResult.check_skipped (id : CheckId) (reason : Omission) :
    (CheckResult.skipped id reason).check = id := rfl

/-- What is skipped did not pass. -/
@[simp] theorem CheckResult.isPassed_skipped (id : CheckId) (reason : Omission) :
    (CheckResult.skipped id reason).isPassed = false := by
  cases reason <;> rfl

@[simp] theorem CheckResult.isFailed_skipped (id : CheckId) (reason : Omission) :
    (CheckResult.skipped id reason).isFailed = false := by
  cases reason <;> rfl

namespace DependencyGraph

/-- The result to expect of a check, if executed checks come out as `outcome` says. -/
def expected (g : DependencyGraph) (acyclic : g.Acyclic) (outcome : CheckId → CheckResult) (id : CheckId) :
    CheckResult :=
  match (g.dependencies id).attach.find? (fun d => !(g.expected acyclic outcome d.1).isPassed) with
  | some d => .skipped id (.dependencyFailed d.1)
  | none => (outcome id).under id
termination_by acyclic.wellFounded.wrap id
decreasing_by exact d.2

variable {g : DependencyGraph} {acyclic : g.Acyclic} {outcome : CheckId → CheckResult} {id : CheckId}

/-- **The recursion**: the first dependency that is not expected to pass decides, and where there is none the check
itself does. -/
theorem expected_eq (id : CheckId) : g.expected acyclic outcome id =
    match (g.dependencies id).find? (fun d => !(g.expected acyclic outcome d).isPassed) with
    | some d => .skipped id (.dependencyFailed d)
    | none => (outcome id).under id := by
  -- the definition goes through the attached dependencies only to show that it ends
  have strip : (g.dependencies id).find? (fun d => !(g.expected acyclic outcome d).isPassed) =
      ((g.dependencies id).attach.find? fun d => !(g.expected acyclic outcome d.1).isPassed).map Subtype.val := by
    conv => lhs; rw [← List.attach_map_subtype_val (g.dependencies id), List.find?_map]
    rfl
  rw [expected, strip]
  cases (g.dependencies id).attach.find? fun d => !(g.expected acyclic outcome d.1).isPassed <;> rfl

/-- A check whose dependencies are expected to pass comes out as it does. -/
theorem expected_of_passed (h : ∀ d, g.DependsOn id d → (g.expected acyclic outcome d).isPassed = true) :
    g.expected acyclic outcome id = (outcome id).under id := by
  have none : (g.dependencies id).find? (fun d => !(g.expected acyclic outcome d).isPassed) = none :=
    List.find?_eq_none.mpr fun d hd => by simp only [h d hd, Bool.not_true, Bool.false_eq_true, not_false_eq_true]
  rw [expected_eq, none]

/-- A check is skipped because of the first dependency that is not expected to pass. -/
theorem expected_of_first {d : CheckId}
    (h : (g.dependencies id).find? (fun d => !(g.expected acyclic outcome d).isPassed) = some d) :
    g.expected acyclic outcome id = .skipped id (.dependencyFailed d) := by
  rw [expected_eq, h]

@[simp] theorem check_expected : (g.expected acyclic outcome id).check = id := by
  rw [expected_eq]
  split <;> rfl

end DependencyGraph

end GateRunner
