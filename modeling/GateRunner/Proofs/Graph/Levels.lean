import GateRunner.Proofs.Graph.Emission
import GateRunner.Proofs.Schedule.Replay
import GateRunner.Proofs.WorkingSet.Dependence
import Mathlib.Order.Lattice.Nat

/-!
# Checks come out level by level

The depth of a check is the length of the longest chain of dependencies below it. The chains are lists and do not
mention the algorithm; without a circle there is a longest one (`isGreatest_depth`), and the depth is one more than that
of the deepest dependency (`depth_lt`, `depth_le`).

The queue puts a check at its end when the last of its dependencies comes out. Those that came out before are no deeper,
so the check is one level deeper than the last one. Hence the queue holds checks of one depth or of two neighbouring
ones, in rising order, and what comes out rises too (`Levelled.step`).

**The law** (`dependencyOrder_by_level`): a graph without a circle has all its checks put in order, each after what it
depends on, with depths that never fall.
-/

namespace GateRunner

/-! ## Depth -/

/-- The lengths of the chains that go from a check to a dependency, from that to one of its own, and so on. -/
def chainLengths (dependsOn : CheckId → CheckId → Prop) (id : CheckId) : Set Nat :=
  {n | ∃ below, List.IsChain dependsOn (id :: below) ∧ below.length = n}

/-- The length of the longest chain of dependencies below a check. -/
noncomputable def depth (dependsOn : CheckId → CheckId → Prop) (id : CheckId) : Nat := sSup (chainLengths dependsOn id)

namespace DependencyGraph

variable {g : DependencyGraph}

section

variable (acyclic : g.Acyclic)
include acyclic

/-- A chain is no longer than the number of checks that are reached. -/
theorem length_le_reachCount {id : CheckId} {below : List CheckId} (chain : List.IsChain g.DependsOn (id :: below)) :
    below.length ≤ g.reachCount id := by
  induction below generalizing id with
  | nil => exact Nat.zero_le _
  | cons d rest ih =>
    obtain ⟨step, chain⟩ := List.isChain_cons_cons.mp chain
    have less := step.reachCount_lt (acyclic d)
    have := ih chain
    rw [List.length_cons]
    omega

/-- Without a circle there is a longest chain. -/
theorem isGreatest_depth (id : CheckId) : IsGreatest (chainLengths g.DependsOn id) (depth g.DependsOn id) := by
  have bounded : BddAbove (chainLengths g.DependsOn id) := by
    refine ⟨g.reachCount id, ?_⟩
    rintro n ⟨below, chain, rfl⟩
    exact length_le_reachCount acyclic chain
  exact ⟨Nat.sSup_mem ⟨0, [], .singleton id, rfl⟩ bounded, fun n hn => le_csSup bounded hn⟩

/-- A check is deeper than each of its dependencies. -/
theorem depth_lt {id d : CheckId} (step : g.DependsOn id d) : depth g.DependsOn d < depth g.DependsOn id := by
  obtain ⟨below, chain, length⟩ := (isGreatest_depth acyclic d).1
  have longer : below.length + 1 ∈ chainLengths g.DependsOn id :=
    ⟨d :: below, List.isChain_cons_cons.mpr ⟨step, chain⟩, List.length_cons⟩
  have := (isGreatest_depth acyclic id).2 longer
  omega

/-- A check is no deeper than one level below all its dependencies. -/
theorem depth_le {id : CheckId} {n : Nat} (bound : ∀ d, g.DependsOn id d → depth g.DependsOn d < n) :
    depth g.DependsOn id ≤ n := by
  obtain ⟨below, chain, length⟩ := (isGreatest_depth acyclic id).1
  cases below with
  | nil =>
    rw [← length]
    exact Nat.zero_le n
  | cons d rest =>
    obtain ⟨step, chain⟩ := List.isChain_cons_cons.mp chain
    have deepest := (isGreatest_depth acyclic d).2 ⟨rest, chain, rfl⟩
    have := bound d step
    rw [List.length_cons] at length
    omega

/-- A check is one level deeper than its deepest dependency. -/
theorem depth_eq_succ {id d : CheckId} (step : g.DependsOn id d)
    (deepest : ∀ other, g.DependsOn id other → depth g.DependsOn other ≤ depth g.DependsOn d) :
    depth g.DependsOn id = depth g.DependsOn d + 1 :=
  Nat.le_antisymm (depth_le acyclic fun other dep => Nat.lt_succ_of_le (deepest other dep)) (depth_lt acyclic step)

end

/-! ## The queue -/

/-- What is out and what waits in the queue is of rising depth, and what waits is of one depth or of two neighbouring
ones. -/
structure Levelled (g : DependencyGraph) (out queue : List CheckId) : Prop where
  rising : (out ++ queue).Pairwise fun a b => depth g.DependsOn a ≤ depth g.DependsOn b
  near : ∀ a ∈ queue, ∀ b ∈ queue, depth g.DependsOn b ≤ depth g.DependsOn a + 1

/-- The checks that wait in the queue at first have nothing below them. -/
theorem levelled_roots (acyclic : g.Acyclic) (distinct : g.order.Nodup) : g.Levelled [] g.roots := by
  have flat : ∀ id ∈ g.roots, depth g.DependsOn id = 0 := by
    intro id hid
    have none := (((emitting_roots g distinct).exact id).mp hid).2
    exact Nat.le_zero.mp (depth_le acyclic fun d step => absurd (waitsFor_eq_zero_iff.mp none d step) List.not_mem_nil)
  refine ⟨List.pairwise_of_forall_mem_list fun a ha b hb => ?_, fun a ha b hb => ?_⟩
  · rw [flat a ha, flat b hb]
  · rw [flat a ha, flat b hb]
    exact Nat.zero_le _

namespace Levelled

variable {out queue : List CheckId} {table : InDegrees} {id : CheckId}

/-- What is out is no deeper than the head of the queue. -/
theorem depth_le_head (h : g.Levelled out (id :: queue)) {d : CheckId} (hd : d ∈ out ++ [id]) :
    depth g.DependsOn d ≤ depth g.DependsOn id := by
  rcases List.mem_append.mp hd with hd | hd
  · exact (List.pairwise_append.mp h.rising).2.2 d hd id List.mem_cons_self
  · rw [List.mem_singleton.mp hd]

variable (proper : g.Proper) (acyclic : g.Acyclic)
include proper acyclic

/-- What the head of the queue frees is one level deeper. -/
theorem depth_freed (emitting : g.Emitting out table (id :: queue)) (h : g.Levelled out (id :: queue)) {other : CheckId}
    (freed : other ∈ (table.relax (g.dependents id)).2) : depth g.DependsOn other = depth g.DependsOn id + 1 := by
  rw [(emitting.relax_dependents proper).2, List.mem_filter, decide_eq_true_eq] at freed
  obtain ⟨dep, one⟩ := freed
  -- it waited for this check alone, so all its dependencies are out now
  have none : g.waitsFor (out ++ [id]) other = 0 := by
    rw [waitsFor_snoc proper emitting.head_not_mem, if_pos dep, one]
  have atMost := depth_le acyclic fun d step =>
    Nat.lt_succ_of_le (h.depth_le_head (waitsFor_eq_zero_iff.mp none d step))
  have atLeast := depth_lt acyclic (proper.mem_dependents.mp dep)
  omega

/-- Taking a check out and putting at the end what it frees keeps the levels. -/
theorem step (emitting : g.Emitting out table (id :: queue)) (h : g.Levelled out (id :: queue)) :
    g.Levelled (out ++ [id]) (queue ++ (table.relax (g.dependents id)).2) := by
  have deeper : ∀ other ∈ (table.relax (g.dependents id)).2, depth g.DependsOn other = depth g.DependsOn id + 1 :=
    fun other freed => h.depth_freed proper acyclic emitting freed
  have within : ∀ other ∈ queue,
      depth g.DependsOn id ≤ depth g.DependsOn other ∧ depth g.DependsOn other ≤ depth g.DependsOn id + 1 := by
    intro other waits
    have head := (List.pairwise_cons.mp (List.pairwise_append.mp h.rising).2.1).1 other waits
    exact ⟨head, h.near id List.mem_cons_self other (List.mem_cons_of_mem _ waits)⟩
  constructor
  · have regroup : (out ++ [id]) ++ (queue ++ (table.relax (g.dependents id)).2) =
        (out ++ id :: queue) ++ (table.relax (g.dependents id)).2 := by simp
    rw [regroup]
    refine List.pairwise_append.mpr ⟨h.rising, ?_, fun a ha b hb => ?_⟩
    · refine List.pairwise_of_forall_mem_list fun a ha b hb => ?_
      rw [deeper a ha, deeper b hb]
    · rw [deeper b hb]
      rcases List.mem_append.mp ha with ha | ha
      · exact Nat.le_succ_of_le (h.depth_le_head (List.mem_append_left _ ha))
      · exact h.near id List.mem_cons_self a ha
  · have span : ∀ a ∈ queue ++ (table.relax (g.dependents id)).2,
        depth g.DependsOn id ≤ depth g.DependsOn a ∧ depth g.DependsOn a ≤ depth g.DependsOn id + 1 := by
      intro a ha
      rcases List.mem_append.mp ha with ha | ha
      · exact within a ha
      · have := deeper a ha
        omega
    intro a ha b hb
    have low := (span a ha).1
    have high := (span b hb).2
    omega

/-- What comes out of the queue is of rising depth. -/
theorem emit (emitting : g.Emitting out table queue) (h : g.Levelled out queue) :
    (out ++ (g.emit table queue).1).Pairwise fun a b => depth g.DependsOn a ≤ depth g.DependsOn b := by
  fun_induction DependencyGraph.emit g table queue generalizing out with
  | case1 => exact h.rising
  | case2 table id queue relaxed sorted last heq =>
    rename_i ih
    have later := ih (emitting.step proper) (h.step proper acyclic emitting)
    rw [heq] at later
    simpa only [List.append_assoc, List.singleton_append] using later

end Levelled

/-! ## The law -/

/-- **All checks of a graph without a circle come out, dependencies first and level by level.** Dependence and depth are
those of the declarations, among the checks that are present. -/
theorem dependencyOrder_by_level {units : List BoundCheck} (distinct : (units.map (·.id)).Nodup)
    (accepted : ofAcyclic units = .ok g) :
    let dependsOn := WorkingSet.DependsOn units
    ∃ sorted, g.dependencyOrder = .ok sorted ∧ sorted.Perm g.order ∧
      (∀ before id after, sorted = before ++ id :: after → ∀ d, dependsOn id d → d ∈ before) ∧
      (∀ id, IsGreatest (chainLengths dependsOn id) (depth dependsOn id)) ∧
      sorted.Pairwise fun a b => depth dependsOn a ≤ depth dependsOn b := by
  obtain ⟨rfl, acyclic⟩ := (ofAcyclic_eq_ok_iff distinct).mp accepted
  have proper := proper_ofUnits distinct
  have ordered := (dependencyOrder_spec proper).resolve_right fun ⟨_, _, circle, _⟩ => circle acyclic
  rw [← WorkingSet.dependsOn_ofUnits distinct]
  refine ⟨_, ordered.2, perm_emit proper acyclic, (emit_roots proper).2, isGreatest_depth acyclic, ?_⟩
  exact (levelled_roots acyclic proper.distinct).emit proper acyclic (emitting_roots _ proper.distinct)

/-- The checks of the sample gate are put level by level also when they are listed backwards. -/
theorem sampleGate_levels :
    ∃ sorted, (ofUnits SampleGate.units.reverse).dependencyOrder = .ok sorted ∧
      sorted.map (·.name) = ["audit", "format", "types", "lint", "docs", "tests"] ∧
      sorted.Pairwise fun a b => depth (WorkingSet.DependsOn SampleGate.units.reverse) a ≤
        depth (WorkingSet.DependsOn SampleGate.units.reverse) b := by
  have accepted : ofAcyclic SampleGate.units.reverse = .ok (.ofUnits SampleGate.units.reverse) := by decide +kernel
  obtain ⟨sorted, ordered, _, _, _, rising⟩ := dependencyOrder_by_level SampleGate.distinct_reversed accepted
  have names : (ofUnits SampleGate.units.reverse).dependencyOrder.toOption.map (fun ids => ids.map (·.name)) =
      some ["audit", "format", "types", "lint", "docs", "tests"] := by decide +kernel
  rw [ordered] at names
  exact ⟨sorted, ordered, Option.some.inj names, rising⟩

end DependencyGraph

end GateRunner
