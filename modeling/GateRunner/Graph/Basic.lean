import GateRunner.Check.Behaviour

/-!
# The graph of a working set

Each check of a working set with those of its dependencies that are in the set too. A check that stands in the set
twice has the dependencies of its last place, and counts at each place as a dependent.
-/

namespace GateRunner

/-- The checks of a run, in order, each with its dependencies in the run. -/
structure DependencyGraph where
  nodes : List (CheckId × List CheckId)
deriving DecidableEq, Repr, Inhabited

namespace DependencyGraph

/-- The dependencies of a check that are present, each once, in the order of declaration. -/
def dependenciesAmong (present : List CheckId) (i : BoundCheck) : List CheckId :=
  CheckId.firstOccurrences (i.dependencies.filter (· ∈ present))

/-- The graph of a working set. -/
def ofUnits (units : List BoundCheck) : DependencyGraph :=
  ⟨units.map fun i => (i.id, dependenciesAmong (units.map (·.id)) i)⟩

/-- The checks in their order. -/
def order (g : DependencyGraph) : List CheckId := g.nodes.map (·.1)

/-- The dependencies of a check in the run. -/
def dependencies (g : DependencyGraph) (id : CheckId) : List CheckId := (g.nodes.reverse.lookup id).getD []

/-- The checks in the run that depend on a check, in their order. -/
def dependents (g : DependencyGraph) (id : CheckId) : List CheckId :=
  (g.nodes.filter (fun n => id ∈ n.2)).map (·.1)

/-- The number of checks. -/
def size (g : DependencyGraph) : Nat := g.nodes.length

/-- Whether there are no checks. -/
def isEmpty (g : DependencyGraph) : Bool := g.nodes.isEmpty

end DependencyGraph

end GateRunner
