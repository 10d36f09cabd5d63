import GateRunner.Proofs.Graph.Edges
import GateRunner.Proofs.WorkingSet.Grounded
import Mathlib.Data.List.Perm.Subperm

/-!
# What taking checks out of the queue keeps

`DependencyGraph.emit` keeps a table of numbers. `Emitting` says what the table and the queue mean once some checks are
out: the number of a check is how many of its dependencies are not out (`waitsFor`), and the checks that are out or in
the queue are exactly those whose number is zero, each once. Lowering the dependents of the check taken out restores
this for the longer list (`Emitting.step`), so it holds at the end, when the queue is empty (`Emitting.emit`).

**The law** (`mem_emit_iff`): the checks that come out are those from which no circle is reached. Each comes out after
its dependencies, so none of them can lead to a circle first; and a check that does not lead to one has only dependencies
that do not either, and waits for none of them in the end. So a working set of distinct checks gets its graph exactly
when the graph has no circle (`ofAcyclic_eq_ok_iff`), and otherwise is told which checks lead to one
(`ofAcyclic_eq_error`).
-/

namespace GateRunner

namespace InDegrees

theorem lookup_lower (id other : CheckId) (table : InDegrees) :
    (lower id table).lookup other =
      if other = id then (table.lookup other).map (· - 1) else table.lookup other := by
  induction table with
  | nil => simp only [lower, List.map_nil, List.lookup_nil, Option.map_none, ite_self]
  | cons e rest ih =>
    obtain ⟨key, value⟩ := e
    simp only [lower] at ih
    by_cases hk : other = key
    · subst hk
      by_cases hid : other = id
      · simp only [lower, List.map_cons, hid, if_true, List.lookup_cons_self, Option.map_some]
      · simp only [lower, List.map_cons, hid, if_false, List.lookup_cons_self]
    · have hne : (other == key) = false := beq_eq_false_iff_ne.mpr hk
      simp only [lower, List.map_cons]
      by_cases hkey : key = id
      · rw [if_pos hkey, List.lookup_cons, List.lookup_cons, hne, ih]
      · rw [if_neg hkey, List.lookup_cons, List.lookup_cons, hne, ih]

/-- Lowering distinct checks lowers the number of each by one, and frees those whose number was one. -/
theorem relax_spec (table : InDegrees) {ids : List CheckId} (distinct : ids.Nodup) :
    (∀ other, (relax table ids).1.lookup other =
      if other ∈ ids then (table.lookup other).map (· - 1) else table.lookup other) ∧
    (relax table ids).2 = ids.filter (fun id => table.lookup id = some 1) := by
  induction ids generalizing table with
  | nil => simp only [relax, List.not_mem_nil, if_false, implies_true, List.filter_nil, and_self]
  | cons id rest ih =>
    obtain ⟨fresh, distinct⟩ := List.nodup_cons.mp distinct
    cases number : table.lookup id with
    | none =>
      obtain ⟨numbers, freed⟩ := ih table distinct
      have unfreed : ¬ table.lookup id = some 1 := by simp only [number, reduceCtorEq, not_false_eq_true]
      simp only [relax, number]
      refine ⟨fun other => ?_, ?_⟩
      · rw [numbers other]
        by_cases hid : other = id
        · subst hid
          simp only [fresh, if_false, List.mem_cons_self, if_true, number, Option.map_none]
        · simp only [hid, List.mem_cons, false_or]
      · rw [freed, List.filter_cons_of_neg (by simpa using unfreed)]
    | some n =>
      obtain ⟨numbers, freed⟩ := ih (lower id table) distinct
      -- the numbers of the other checks are as they were
      have same : rest.filter (fun other => (lower id table).lookup other = some 1) =
          rest.filter (fun other => table.lookup other = some 1) :=
        List.filter_congr fun other mem => by rw [lookup_lower, if_neg fun e : other = id => fresh (e ▸ mem)]
      simp only [relax, number]
      refine ⟨fun other => ?_, ?_⟩
      · rw [numbers other, lookup_lower]
        by_cases hid : other = id
        · subst hid
          simp only [fresh, if_false, if_true, List.mem_cons_self]
        · simp only [hid, if_false, List.mem_cons, false_or]
      · rw [freed, same, List.filter_cons, number]
        simp only [Option.some.injEq, decide_eq_true_eq]

end InDegrees

namespace DependencyGraph

variable {g : DependencyGraph}

/-- How many dependencies of a check are not out. -/
def waitsFor (g : DependencyGraph) (out : List CheckId) (id : CheckId) : Nat := (g.dependencies id).countP (· ∉ out)

theorem waitsFor_eq_zero_iff {out : List CheckId} {id : CheckId} :
    g.waitsFor out id = 0 ↔ ∀ d, g.DependsOn id d → d ∈ out := by
  simp only [waitsFor, List.countP_eq_zero, decide_eq_true_eq, not_not, DependsOn]

/-- Counting without one value that stands in a list of distinct values once. -/
theorem countP_not_mem_append {deps out : List CheckId} {id : CheckId} (distinct : deps.Nodup) (fresh : id ∉ out) :
    deps.countP (· ∉ out ++ [id]) = if id ∈ deps then deps.countP (· ∉ out) - 1 else deps.countP (· ∉ out) := by
  induction deps with
  | nil => rfl
  | cons d rest ih =>
    obtain ⟨hd, distinct⟩ := List.nodup_cons.mp distinct
    have step := ih distinct
    by_cases he : d = id
    · subst he
      rw [if_neg hd] at step
      rw [List.countP_cons_of_neg (by simp), List.countP_cons_of_pos (by simpa using fresh), step,
        if_pos List.mem_cons_self, Nat.add_sub_cancel]
    · have same : (d ∉ out ++ [id]) ↔ d ∉ out := by simp [he]
      have mem : id ∈ d :: rest ↔ id ∈ rest := by simp [Ne.symm he]
      by_cases hm : id ∈ rest
      · have : 0 < rest.countP (· ∉ out) := List.countP_pos_iff.mpr ⟨id, hm, by simpa using fresh⟩
        rw [if_pos hm] at step
        simp only [List.countP_cons, step, same, mem.mpr hm, if_true]
        omega
      · rw [if_neg hm] at step
        simp only [List.countP_cons, step, same, mem, hm, if_false]

/-- Once a check is out, those that depend on it wait for one check less. -/
theorem waitsFor_snoc (proper : g.Proper) {out : List CheckId} {id : CheckId} (fresh : id ∉ out) (other : CheckId) :
    g.waitsFor (out ++ [id]) other =
      if other ∈ g.dependents id then g.waitsFor out other - 1 else g.waitsFor out other := by
  simp only [waitsFor, countP_not_mem_append (proper.nodup_dependencies other) fresh, proper.mem_dependents, DependsOn]

/-- What depends on a check that is not out waits for it at least. -/
theorem waitsFor_pos_of_not_mem (proper : g.Proper) {out : List CheckId} {id other : CheckId} (fresh : id ∉ out)
    (dep : other ∈ g.dependents id) : 0 < g.waitsFor out other :=
  List.countP_pos_iff.mpr ⟨id, proper.mem_dependents.mp dep, by simpa using fresh⟩

/-- What the table and the queue mean when some checks are out. -/
structure Emitting (g : DependencyGraph) (out : List CheckId) (table : InDegrees) (queue : List CheckId) : Prop where
  numbers : ∀ id ∈ g.order, table.lookup id = some (g.waitsFor out id : Int)
  distinct : (out ++ queue).Nodup
  exact : ∀ id, id ∈ out ++ queue ↔ id ∈ g.order ∧ g.waitsFor out id = 0

theorem emitting_roots (g : DependencyGraph) (distinct : g.order.Nodup) : g.Emitting [] g.inDegrees g.roots := by
  have count : ∀ id, g.waitsFor [] id = (g.dependencies id).length := fun id => by simp [waitsFor]
  have numbers : ∀ id ∈ g.order, g.inDegrees.lookup id = some (g.waitsFor [] id : Int) := by
    intro id hid
    have keys : (g.inDegrees.map (·.1)).Nodup := by
      simpa only [inDegrees, List.map_map, Function.comp_def, List.map_id'] using distinct
    rw [count]
    exact lookup_eq_some_of_mem keys (List.mem_map.mpr ⟨id, hid, rfl⟩)
  refine ⟨numbers, List.Nodup.sublist List.filter_sublist distinct, fun id => ?_⟩
  simp only [List.nil_append, roots, List.mem_filter, decide_eq_true_eq]
  refine and_congr_right fun hid => ?_
  rw [numbers id hid, Option.some.injEq, Int.natCast_eq_zero]

/-! ## One check out -/

namespace Emitting

variable {out queue : List CheckId} {table : InDegrees} {id : CheckId}

/-- The head of the queue is not out. -/
theorem head_not_mem (h : g.Emitting out table (id :: queue)) : id ∉ out := fun mem =>
  (List.nodup_append.mp h.distinct).2.2 id mem id List.mem_cons_self rfl

variable (proper : g.Proper)
include proper

/-- What depends on the head of the queue waits for it at least. -/
theorem waitsFor_pos (h : g.Emitting out table (id :: queue)) {other : CheckId} (dep : other ∈ g.dependents id) :
    0 < g.waitsFor out other :=
  waitsFor_pos_of_not_mem proper h.head_not_mem dep

/-- Lowering the dependents of the head of the queue lowers each by one, and frees those that wait for nothing else. -/
theorem relax_dependents (h : g.Emitting out table (id :: queue)) :
    (∀ other, (table.relax (g.dependents id)).1.lookup other =
      if other ∈ g.dependents id then (table.lookup other).map (· - 1) else table.lookup other) ∧
    (table.relax (g.dependents id)).2 = (g.dependents id).filter fun other => g.waitsFor out other = 1 := by
  obtain ⟨lowered, freed⟩ := InDegrees.relax_spec table (proper.nodup_dependents id)
  refine ⟨lowered, freed.trans (List.filter_congr fun other dep => ?_)⟩
  rw [h.numbers other (proper.mem_dependents.mp dep).mem_order]
  simp only [Option.some.injEq]
  exact decide_eq_decide.mpr (by omega)

/-- Taking a check out and lowering its dependents keeps what the table and the queue mean. -/
theorem step (h : g.Emitting out table (id :: queue)) :
    g.Emitting (out ++ [id]) (table.relax (g.dependents id)).1 (queue ++ (table.relax (g.dependents id)).2) := by
  obtain ⟨numbers, freed⟩ := h.relax_dependents proper
  have mem_freed : ∀ other, other ∈ (table.relax (g.dependents id)).2 ↔
      other ∈ g.dependents id ∧ g.waitsFor out other = 1 := by
    intro other
    rw [freed, List.mem_filter, decide_eq_true_eq]
  have regroup : ∀ other, other ∈ (out ++ [id]) ++ (queue ++ (table.relax (g.dependents id)).2) ↔
      other ∈ out ++ id :: queue ∨ other ∈ (table.relax (g.dependents id)).2 := by
    intro other
    simp only [List.mem_append, List.mem_cons, List.not_mem_nil, or_false, or_assoc]
  refine ⟨fun other hother => ?_, ?_, fun other => ?_⟩
  · rw [numbers other, waitsFor_snoc proper h.head_not_mem, h.numbers other hother]
    split
    · rename_i dep
      exact congrArg some (Int.ofNat_sub (h.waitsFor_pos proper dep)).symm
    · rfl
  · -- a check that is freed still waited for one check, so it was neither out nor in the queue
    have apart : ∀ a ∈ out ++ id :: queue, ∀ b ∈ (table.relax (g.dependents id)).2, a ≠ b := by
      intro a ha b hb e
      have zero := ((h.exact a).mp ha).2
      have one := ((mem_freed b).mp hb).2
      rw [e, one] at zero
      cases zero
    have nodup : (table.relax (g.dependents id)).2.Nodup := by
      rw [freed]
      exact List.Nodup.sublist List.filter_sublist (proper.nodup_dependents id)
    have := List.nodup_append.mpr ⟨h.distinct, nodup, apart⟩
    simpa only [List.append_assoc, List.cons_append, List.nil_append] using this
  · rw [regroup, h.exact, mem_freed, waitsFor_snoc proper h.head_not_mem]
    by_cases dep : other ∈ g.dependents id
    · have pos := h.waitsFor_pos proper dep
      have hother := (proper.mem_dependents.mp dep).mem_order
      simp only [dep, if_true, hother, true_and]
      omega
    · simp only [dep, if_false, false_and, or_false]

end Emitting

/-! ## All checks out -/

/-- All that a check depends on stands among some checks. -/
def Served (g : DependencyGraph) (out : List CheckId) (id : CheckId) : Prop := ∀ d, g.DependsOn id d → d ∈ out

/-- At the end the queue is empty, and the table means what it did. Every check came out after its dependencies. -/
theorem Emitting.emit (proper : g.Proper) {out queue : List CheckId} {table : InDegrees}
    (h : g.Emitting out table queue) :
    g.Emitting (out ++ (g.emit table queue).1) (g.emit table queue).2 [] ∧
      Grounded g.Served out (g.emit table queue).1 := by
  fun_induction DependencyGraph.emit g table queue generalizing out with
  | case1 => exact ⟨by simpa only [List.append_nil] using h, grounded_nil⟩
  | case2 table id queue relaxed sorted last heq =>
    rename_i ih
    obtain ⟨final, later⟩ := ih (h.step proper)
    rw [heq] at final later
    have none := ((h.exact id).mp (List.mem_append_right _ List.mem_cons_self)).2
    refine ⟨by simpa only [List.append_assoc, List.singleton_append] using final, grounded_cons.mpr ⟨?_, later⟩⟩
    exact waitsFor_eq_zero_iff.mp none

/-- What is out at the end are the checks that wait for nothing, each once and after its dependencies. -/
theorem emit_roots (proper : g.Proper) :
    g.Emitting (g.emit g.inDegrees g.roots).1 (g.emit g.inDegrees g.roots).2 [] ∧
      Grounded g.Served [] (g.emit g.inDegrees g.roots).1 := by
  simpa only [List.nil_append] using (emitting_roots g proper.distinct).emit proper

/-! ## Success and circles -/

/-- **The checks that come out are those that do not lead to a circle.** -/
theorem mem_emit_iff (proper : g.Proper) {id : CheckId} :
    id ∈ (g.emit g.inDegrees g.roots).1 ↔ id ∈ g.order ∧ ¬ g.LeadsToCircle id := by
  obtain ⟨final, grounded⟩ := emit_roots proper
  have exact : ∀ id, id ∈ (g.emit g.inDegrees g.roots).1 ↔
      id ∈ g.order ∧ g.waitsFor (g.emit g.inDegrees g.roots).1 id = 0 := by
    simpa only [List.append_nil] using final.exact
  constructor
  · refine fun mem => ⟨((exact id).mp mem).1, ?_⟩
    refine grounded.forall (P := fun id => ¬ g.LeadsToCircle id) (by simp) (fun before _ away a _ served => ?_) id mem
    intro leads
    obtain ⟨d, step, leads⟩ := leadsToCircle_iff.mp leads
    exact away d (served d step) leads
  · rintro ⟨mem, away⟩
    refine induction_of_not_leadsToCircle (P := fun id => id ∈ g.order → id ∈ _) (fun id ih mem => ?_) away mem
    exact (exact id).mpr ⟨mem, waitsFor_eq_zero_iff.mpr fun d step => ih d step (proper.mem_order_of_dependsOn step)⟩

/-- What has a number left at the end are the checks that lead to a circle. -/
theorem mem_left_iff (proper : g.Proper) {id : CheckId} :
    id ∈ g.order.filter (fun id => ((g.emit g.inDegrees g.roots).2.lookup id).getD 0 ≠ 0) ↔ g.LeadsToCircle id := by
  obtain ⟨final, _⟩ := emit_roots proper
  have exact := final.exact id
  rw [List.append_nil, mem_emit_iff proper] at exact
  have number : ∀ mem : id ∈ g.order, ((g.emit g.inDegrees g.roots).2.lookup id).getD 0 ≠ 0 ↔
      g.waitsFor (g.emit g.inDegrees g.roots).1 id ≠ 0 := fun mem => by
    rw [final.numbers id mem, Option.getD_some, Ne, Int.natCast_eq_zero]
  rw [List.mem_filter, decide_eq_true_eq]
  constructor
  · rintro ⟨mem, left⟩
    exact not_not.mp fun away => (number mem).mp left (exact.mp ⟨mem, away⟩).2
  · intro leads
    refine ⟨leads.mem_order, (number leads.mem_order).mpr fun zero => ?_⟩
    exact (exact.mpr ⟨leads.mem_order, zero⟩).2 leads

theorem nodup_emit (proper : g.Proper) : (g.emit g.inDegrees g.roots).1.Nodup := by
  simpa only [List.append_nil] using (emit_roots proper).1.distinct

/-- Without a circle all checks come out, each once. -/
theorem perm_emit (proper : g.Proper) (acyclic : g.Acyclic) : (g.emit g.inDegrees g.roots).1.Perm g.order := by
  have distinct := nodup_emit proper
  refine (List.perm_ext_iff_of_nodup distinct proper.distinct).mpr fun id => ?_
  rw [mem_emit_iff proper]
  exact and_iff_left (acyclic_iff.mp acyclic id)

/-- All checks come out exactly when there is no circle. -/
theorem length_emit_eq_iff (proper : g.Proper) :
    (g.emit g.inDegrees g.roots).1.length = g.order.length ↔ g.Acyclic := by
  refine ⟨fun length => acyclic_iff.mpr fun id leads => ?_, fun acyclic => (perm_emit proper acyclic).length_eq⟩
  have distinct := nodup_emit proper
  have sub : (g.emit g.inDegrees g.roots).1 ⊆ g.order := fun id mem => ((mem_emit_iff proper).mp mem).1
  have all := (List.subperm_of_subset distinct sub).perm_of_length_le (Nat.le_of_eq length.symm)
  exact ((mem_emit_iff proper).mp (all.mem_iff.mpr leads.mem_order)).2 leads

/-- **Without a circle, an order of all checks comes out; with one, the checks that lead to it.** -/
theorem dependencyOrder_spec (proper : g.Proper) :
    (g.Acyclic ∧ g.dependencyOrder = .ok (g.emit g.inDegrees g.roots).1) ∨
      ∃ checks, g.dependencyOrder = .error (.circle checks) ∧ ¬ g.Acyclic ∧ checks.Sublist g.order ∧
        ∀ id, id ∈ checks ↔ g.LeadsToCircle id := by
  have key := length_emit_eq_iff proper
  by_cases all : (g.emit g.inDegrees g.roots).1.length = g.order.length
  · exact .inl ⟨key.mp all, if_pos all⟩
  · exact .inr ⟨_, if_neg all, fun acyclic => all (key.mpr acyclic), List.filter_sublist, fun _ => mem_left_iff proper⟩

/-- **A working set of distinct checks gets its graph exactly when the graph has no circle.** -/
theorem ofAcyclic_eq_ok_iff {units : List BoundCheck} (distinct : (units.map (·.id)).Nodup) {graph : DependencyGraph} :
    ofAcyclic units = .ok graph ↔ ofUnits units = graph ∧ graph.Acyclic := by
  rw [ofAcyclic]
  rcases dependencyOrder_spec (proper_ofUnits distinct) with ⟨acyclic, sorted⟩ | ⟨checks, refused, circle, _⟩
  · rw [sorted]
    exact ⟨fun h => by cases h; exact ⟨rfl, acyclic⟩, fun h => by rw [h.1]⟩
  · rw [refused]
    exact ⟨fun h => (by cases h), fun h => absurd (h.1 ▸ h.2) circle⟩

/-- **A working set of distinct checks that gets no graph is told which of them lead to a circle.** -/
theorem ofAcyclic_eq_error {units : List BoundCheck} (distinct : (units.map (·.id)).Nodup) {e : RunError}
    (refused : ofAcyclic units = .error e) :
    ∃ checks, e = .circle checks ∧ checks.Sublist (units.map (·.id)) ∧
      ∀ id, id ∈ checks ↔ (ofUnits units).LeadsToCircle id := by
  rw [ofAcyclic] at refused
  rcases dependencyOrder_spec (proper_ofUnits distinct) with ⟨_, sorted⟩ | ⟨checks, stuck, _, sub, exact⟩
  · rw [sorted] at refused
    cases refused
  · rw [stuck] at refused
    cases refused
    exact ⟨checks, rfl, order_ofUnits units ▸ sub, exact⟩

end DependencyGraph

end GateRunner
