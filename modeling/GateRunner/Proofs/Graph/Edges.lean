import GateRunner.Graph.Order
import GateRunner.Proofs.Check.Occurrences
import GateRunner.WorkingSet.Count
import Mathlib.Logic.Relation

/-!
# Edges and circles

One check of a graph depends on another when the graph has the other among its dependencies; it reaches what it
depends on by one or more such steps. A graph has a circle when a check reaches itself. `Acyclic` is the absence of a
circle and nothing else: it does not mention the algorithm that looks for one.

**The law** (`Acyclic.wellFounded`): without a circle, going from a check to a dependency comes to an end. What is
reached grows less with every step, because a check no longer reaches the dependency that it stands for. The same holds
from a check that does not lead to a circle, in a graph that may have one elsewhere (`induction_of_not_leadsToCircle`).

The graph of a working set without repetition is `Proper`: its checks are distinct, their dependencies are among them,
and none is named twice. On such a graph `dependents` is the converse of `dependencies` (`Proper.mem_dependents`).
-/

namespace GateRunner

namespace DependencyGraph

/-- A check depends on another one, in the run. -/
def DependsOn (g : DependencyGraph) (id dependency : CheckId) : Prop := dependency ∈ g.dependencies id

/-- A check depends on another one, directly or through others. -/
def Reaches (g : DependencyGraph) : CheckId → CheckId → Prop := Relation.TransGen g.DependsOn

/-- No check depends on itself, directly or through others. -/
def Acyclic (g : DependencyGraph) : Prop := ∀ id, ¬ g.Reaches id id

/-- A graph of distinct checks, each with distinct dependencies that are checks of the graph. -/
structure Proper (g : DependencyGraph) : Prop where
  distinct : g.order.Nodup
  closed : ∀ n ∈ g.nodes, ∀ d ∈ n.2, d ∈ g.order
  once : ∀ n ∈ g.nodes, n.2.Nodup

/-! ## Looking up dependencies -/

/-- A check with a dependency has an entry in the graph. -/
theorem DependsOn.entry {g : DependencyGraph} {id d : CheckId} (h : g.DependsOn id d) :
    (id, g.dependencies id) ∈ g.nodes := by
  unfold DependsOn dependencies at h
  cases found : g.nodes.reverse.lookup id with
  | none => rw [found] at h; exact absurd h List.not_mem_nil
  | some deps =>
    have entry := List.mem_reverse.mp (mem_of_lookup found)
    rw [show g.dependencies id = deps by rw [dependencies, found]; rfl]
    exact entry

theorem DependsOn.mem_order {g : DependencyGraph} {id d : CheckId} (h : g.DependsOn id d) : id ∈ g.order :=
  List.mem_map.mpr ⟨_, h.entry, rfl⟩

/-! ## Without a circle, dependencies come to an end -/

/-- The checks that some check of the graph depends on. -/
def targets (g : DependencyGraph) : List CheckId := g.nodes.flatMap (·.2)

theorem DependsOn.mem_targets {g : DependencyGraph} {id d : CheckId} (h : g.DependsOn id d) : d ∈ g.targets :=
  List.mem_flatMap.mpr ⟨_, h.entry, h⟩

open Classical in
/-- How many targets a check reaches. -/
noncomputable def reachCount (g : DependencyGraph) (id : CheckId) : Nat := g.targets.countP (fun d => g.Reaches id d)

/-- One step on, less is reached: the dependency itself no longer is, unless it reaches itself. -/
theorem DependsOn.reachCount_lt {g : DependencyGraph} {id d : CheckId} (step : g.DependsOn id d) (free : ¬ g.Reaches d d) :
    g.reachCount d < g.reachCount id := by
  refine WorkingSet.countP_lt_of_mem step.mem_targets (fun other far => ?_) ?_ ?_
  · simp only [decide_eq_true_eq] at far ⊢
    exact .head step far
  · simp only [decide_eq_true_eq]
    exact .single step
  · simpa only [decide_eq_true_eq] using free

/-- **Without a circle, going from a check to a dependency comes to an end.** -/
theorem Acyclic.wellFounded {g : DependencyGraph} (h : g.Acyclic) : WellFounded fun d id => g.DependsOn id d :=
  Subrelation.wf (fun step => step.reachCount_lt (h _)) (InvImage.wf g.reachCount Nat.lt_wfRel.wf)

/-! ## Checks that lead to a circle -/

/-- A check lies on a circle, or comes to one by going from check to dependency. -/
def LeadsToCircle (g : DependencyGraph) (id : CheckId) : Prop :=
  ∃ c, Relation.ReflTransGen g.DependsOn id c ∧ g.Reaches c c

/-- A check leads to a circle exactly when one of its dependencies does. -/
theorem leadsToCircle_iff {g : DependencyGraph} {id : CheckId} :
    g.LeadsToCircle id ↔ ∃ d, g.DependsOn id d ∧ g.LeadsToCircle d := by
  constructor
  · rintro ⟨c, way, circle⟩
    rcases way.cases_head with rfl | ⟨d, step, way⟩
    · obtain ⟨d, step, back⟩ := Relation.TransGen.head'_iff.mp circle
      exact ⟨d, step, id, back, circle⟩
    · exact ⟨d, step, c, way, circle⟩
  · rintro ⟨d, step, c, way, circle⟩
    exact ⟨c, .head step way, circle⟩

theorem LeadsToCircle.mem_order {g : DependencyGraph} {id : CheckId} (h : g.LeadsToCircle id) : id ∈ g.order := by
  obtain ⟨d, step, _⟩ := leadsToCircle_iff.mp h
  exact step.mem_order

/-- There is no circle exactly when no check leads to one. -/
theorem acyclic_iff {g : DependencyGraph} : g.Acyclic ↔ ∀ id, ¬ g.LeadsToCircle id :=
  ⟨fun none _ ⟨c, _, circle⟩ => none c circle, fun none id circle => none id ⟨id, .refl, circle⟩⟩

/-- What holds of a check when it holds of all its dependencies holds of every check that does not lead to a circle. -/
theorem induction_of_not_leadsToCircle {g : DependencyGraph} {P : CheckId → Prop}
    (spreads : ∀ id, (∀ d, g.DependsOn id d → P d) → P id) {id : CheckId} (away : ¬ g.LeadsToCircle id) : P id := by
  -- a dependency does not lead to a circle either, so it is not on one and reaches less
  induction measure : g.reachCount id using Nat.strongRecOn generalizing id with
  | _ n ih =>
    refine spreads id fun d step => ?_
    have away' : ¬ g.LeadsToCircle d := fun leads => away (leadsToCircle_iff.mpr ⟨d, step, leads⟩)
    have less := step.reachCount_lt fun circle => away' ⟨d, .refl, circle⟩
    exact ih _ (measure ▸ less) away' rfl

/-! ## Proper graphs -/

namespace Proper

variable {g : DependencyGraph} (proper : g.Proper)
include proper

theorem dependencies_eq {id : CheckId} {deps : List CheckId} (mem : (id, deps) ∈ g.nodes) : g.dependencies id = deps := by
  have distinct : (g.nodes.reverse.map (·.1)).Nodup := by
    rw [List.map_reverse]
    exact List.nodup_reverse.mpr proper.distinct
  rw [dependencies, lookup_eq_some_of_mem distinct (List.mem_reverse.mpr mem)]
  rfl

/-- What a check of a proper graph depends on is in the graph. -/
theorem mem_order_of_dependsOn {id d : CheckId} (h : g.DependsOn id d) : d ∈ g.order := proper.closed _ h.entry d h

theorem nodup_dependencies (id : CheckId) : (g.dependencies id).Nodup := by
  by_cases empty : g.dependencies id = []
  · rw [empty]
    exact List.nodup_nil
  · obtain ⟨d, hd⟩ := List.exists_mem_of_ne_nil _ empty
    exact proper.once _ (DependsOn.entry hd)

/-- The dependents of a check are the checks that depend on it. -/
theorem mem_dependents {id d : CheckId} : id ∈ g.dependents d ↔ g.DependsOn id d := by
  constructor
  · intro h
    obtain ⟨⟨key, deps⟩, hn, rfl⟩ := List.mem_map.mp h
    obtain ⟨mem, hd⟩ := List.mem_filter.mp hn
    show d ∈ g.dependencies key
    rw [proper.dependencies_eq mem]
    exact of_decide_eq_true hd
  · intro h
    exact List.mem_map.mpr ⟨_, List.mem_filter.mpr ⟨h.entry, decide_eq_true h⟩, rfl⟩

theorem nodup_dependents (d : CheckId) : (g.dependents d).Nodup :=
  List.Nodup.sublist (List.Sublist.map _ List.filter_sublist) proper.distinct

end Proper

/-! ## The graph of a working set -/

@[simp] theorem order_ofUnits (units : List BoundCheck) : (ofUnits units).order = units.map (·.id) := by
  simp only [order, ofUnits, List.map_map, Function.comp_def]

/-- Only of no checks the graph is empty. -/
theorem eq_nil_of_isEmpty_ofUnits {units : List BoundCheck} (empty : (ofUnits units).isEmpty = true) : units = [] :=
  List.map_eq_nil_iff.mp (List.isEmpty_iff.mp empty)

theorem mem_dependenciesAmong {present : List CheckId} {i : BoundCheck} {d : CheckId} :
    d ∈ dependenciesAmong present i ↔ d ∈ i.dependencies ∧ d ∈ present := by
  simp only [dependenciesAmong, CheckId.mem_firstOccurrences, List.mem_filter, decide_eq_true_eq]

/-- **The graph of distinct checks is proper.** -/
theorem proper_ofUnits {units : List BoundCheck} (distinct : (units.map (·.id)).Nodup) : (ofUnits units).Proper where
  distinct := by rwa [order_ofUnits]
  closed n hn d hd := by
    obtain ⟨i, _, rfl⟩ := List.mem_map.mp hn
    rw [order_ofUnits]
    exact (mem_dependenciesAmong.mp hd).2
  once n hn := by
    obtain ⟨i, _, rfl⟩ := List.mem_map.mp hn
    exact CheckId.nodup_firstOccurrences _

/-- The dependencies of a check in the graph are those that it declares and that are present. -/
theorem dependencies_ofUnits {units : List BoundCheck} (distinct : (units.map (·.id)).Nodup) {i : BoundCheck}
    (hi : i ∈ units) : (ofUnits units).dependencies i.id = dependenciesAmong (units.map (·.id)) i :=
  (proper_ofUnits distinct).dependencies_eq (List.mem_map.mpr ⟨i, hi, rfl⟩)

end DependencyGraph

end GateRunner
