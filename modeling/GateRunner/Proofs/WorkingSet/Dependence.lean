import GateRunner.Proofs.Graph.Edges

/-!
# Dependence in a working set

One check of a working set depends on another when it declares so and the other is in the set too. What is declared and
absent makes no difference. `DependsOn` says this of the checks as they are declared, without their graph, and the graph
says the same (`dependsOn_ofUnits_iff`); so a graph has a circle exactly when the declarations have one
(`acyclic_ofUnits_iff`).
-/

namespace GateRunner.WorkingSet

/-- A check of a working set declares a dependency on a check of the set. -/
def DependsOn (units : List BoundCheck) (id dependency : CheckId) : Prop :=
  (∃ i ∈ units, i.id = id ∧ dependency ∈ i.dependencies) ∧ ∃ j ∈ units, j.id = dependency

/-- Some check of a working set depends on itself, directly or through others. -/
def HasCircle (units : List BoundCheck) : Prop := ∃ id, Relation.TransGen (DependsOn units) id id

variable {units : List BoundCheck} (distinct : (units.map (·.id)).Nodup)
include distinct

/-- **The graph of distinct checks has the dependence that they declare.** -/
theorem dependsOn_ofUnits_iff {id d : CheckId} :
    (DependencyGraph.ofUnits units).DependsOn id d ↔ DependsOn units id d := by
  constructor
  · intro dep
    have mem := dep.mem_order
    rw [DependencyGraph.order_ofUnits] at mem
    obtain ⟨i, hi, rfl⟩ := List.mem_map.mp mem
    have among : d ∈ DependencyGraph.dependenciesAmong (units.map (·.id)) i :=
      DependencyGraph.dependencies_ofUnits distinct hi ▸ dep
    obtain ⟨declared, present⟩ := DependencyGraph.mem_dependenciesAmong.mp among
    exact ⟨⟨i, hi, rfl, declared⟩, List.mem_map.mp present⟩
  · rintro ⟨⟨i, hi, rfl, declared⟩, present⟩
    show d ∈ (DependencyGraph.ofUnits units).dependencies i.id
    rw [DependencyGraph.dependencies_ofUnits distinct hi]
    exact DependencyGraph.mem_dependenciesAmong.mpr ⟨declared, List.mem_map.mpr present⟩

theorem dependsOn_ofUnits : (DependencyGraph.ofUnits units).DependsOn = DependsOn units := by
  funext id d
  exact propext (dependsOn_ofUnits_iff distinct)

/-- **The graph of distinct checks has a circle exactly when their declarations have one.** -/
theorem acyclic_ofUnits_iff : (DependencyGraph.ofUnits units).Acyclic ↔ ¬ HasCircle units := by
  rw [DependencyGraph.Acyclic, HasCircle, not_exists]
  simp only [DependencyGraph.Reaches, dependsOn_ofUnits distinct]

end GateRunner.WorkingSet
