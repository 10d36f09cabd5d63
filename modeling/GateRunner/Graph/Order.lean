import GateRunner.Graph.Basic
import GateRunner.Run.Error

/-!
# Dependencies first

`DependencyGraph.dependencyOrder` puts the checks in an order in which each stands after what it depends on. It keeps
for every check the number of its dependencies that are not out yet. Checks with none left wait in a queue; taking one
out lowers the number of its dependents, and those that come to zero enter the queue.

A check that stands in the set twice has one number and may be lowered twice for one dependency. Its number then goes
below zero, never comes to zero again, and counts as left over. Each entry into the queue is paid for by a number that
was lowered from above zero, so the queue runs dry (`relax_weight`). What is left over then lies on a circle or depends
on one, where the checks are distinct.
-/

namespace GateRunner

/-- How many dependencies of each check are not out yet. -/
abbrev InDegrees := List (CheckId × Int)

namespace InDegrees

/-- The sum of the numbers above zero. -/
def weight : InDegrees → Nat
  | [] => 0
  | e :: rest => e.2.toNat + weight rest

/-- The table with the number of a check one less. -/
def lower (id : CheckId) (table : InDegrees) : InDegrees :=
  table.map (fun e => if e.1 = id then (e.1, e.2 - 1) else e)

/-- Lowers the numbers of some checks, one after the other; gives the table and the checks that came to zero. -/
def relax (table : InDegrees) : List CheckId → InDegrees × List CheckId
  | [] => (table, [])
  | id :: rest =>
    match table.lookup id with
    | some n =>
      let (after, freed) := relax (lower id table) rest
      (after, if n = 1 then id :: freed else freed)
    | none => relax table rest

theorem weight_lower_le (id : CheckId) (table : InDegrees) : weight (lower id table) ≤ weight table := by
  induction table with
  | nil => exact Nat.le_refl _
  | cons e rest ih =>
    simp only [weight, lower, List.map_cons] at ih ⊢
    split <;> omega

theorem weight_lower_lt {id : CheckId} {table : InDegrees} (h : table.lookup id = some 1) :
    weight (lower id table) < weight table := by
  induction table with
  | nil => cases h
  | cons e rest ih =>
    obtain ⟨key, value⟩ := e
    have le := weight_lower_le id rest
    simp only [weight, lower, List.map_cons] at ih le ⊢
    by_cases hk : id = key
    · subst hk
      simp only [List.lookup_cons_self, Option.some.injEq] at h
      simp only [if_true]
      omega
    · have hne : (id == key) = false := by simpa using hk
      simp only [List.lookup_cons, hne] at h
      simp only [if_neg (fun heq => hk (Eq.symm heq))]
      have := ih h
      omega

/-- Every check that comes to zero is paid for. -/
theorem relax_weight (table : InDegrees) (ids : List CheckId) :
    weight (relax table ids).1 + (relax table ids).2.length ≤ weight table := by
  induction ids generalizing table with
  | nil => simp [relax]
  | cons id rest ih =>
    unfold relax
    split
    · rename_i n h
      have step := ih (lower id table)
      by_cases one : n = 1
      · have lt := weight_lower_lt (one ▸ h)
        simp only [one, if_true, List.length_cons]
        omega
      · have le := weight_lower_le id table
        simp only [one, if_false]
        omega
    · exact ih table

end InDegrees

namespace DependencyGraph

/-- At first every dependency of a check is still to come. -/
def inDegrees (g : DependencyGraph) : InDegrees := g.order.map (fun id => (id, ((g.dependencies id).length : Int)))

/-- Takes the checks out of the queue; gives them in that order, and the table at the end. -/
def emit (g : DependencyGraph) (table : InDegrees) : List CheckId → List CheckId × InDegrees
  | [] => ([], table)
  | id :: queue =>
    let relaxed := table.relax (g.dependents id)
    let (sorted, last) := emit g relaxed.1 (queue ++ relaxed.2)
    (id :: sorted, last)
termination_by queue => table.weight + queue.length
decreasing_by
  have := table.relax_weight (g.dependents id)
  simp only [List.length_append, List.length_cons]
  omega

/-- The checks that wait in the queue at first. -/
def roots (g : DependencyGraph) : List CheckId := g.order.filter (fun id => g.inDegrees.lookup id = some 0)

/-- The checks in an order in which dependencies come first, or the ones for which there is no such order. -/
def dependencyOrder (g : DependencyGraph) : Except RunError (List CheckId) :=
  let (sorted, last) := g.emit g.inDegrees g.roots
  if sorted.length = g.order.length then .ok sorted
  else .error (.circle (g.order.filter (fun id => (last.lookup id).getD 0 ≠ 0)))

/-- The graph of a working set, if it has no circle. -/
def ofAcyclic (units : List BoundCheck) : Except RunError DependencyGraph :=
  let g := ofUnits units
  match g.dependencyOrder with
  | .ok _ => .ok g
  | .error e => .error e

end DependencyGraph

end GateRunner
