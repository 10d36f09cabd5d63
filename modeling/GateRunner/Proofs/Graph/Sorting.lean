import GateRunner.Proofs.Graph.Emission
import GateRunner.Proofs.Graph.Tabled
import GateRunner.Proofs.Schedule.Replay

/-!
# The numbers in the middle of a sort

`DependencyGraph.emit` takes a check out and lowers the numbers of its dependents in one go. Here the sort goes step by
step over the tables, so that every number can be read at every moment: a step takes a check out or lowers the number of
one dependent. A number that is not above zero cannot be lowered here, which would stop the sort, while `emit` would
lower it all the same.

**The law** (`sort_numbers_exact`): at every moment the number of a check is how many of its dependencies are not out,
and one more while the check that came out last is still to be taken off it. So what is to be lowered is never zero, and
no check enters the queue twice. It holds with circles too. The step lemma is `SortState.Exact.step`; the sort comes to
the end that `emit` computes (`sorts_emit`).
-/

namespace GateRunner

/-- Where a sort stands. -/
structure SortState where
  out : List CheckId
  /-- The dependents of the check that came out last whose numbers are still to be lowered. -/
  lowering : List CheckId
  numbers : InDegrees
  queue : List CheckId

/-- The checks that have entered the queue so far, in that order. -/
def SortState.queued (s : SortState) : List CheckId := s.out ++ s.queue

namespace TabledGraph

/-- At first every dependency of a check is still to come, and those that have none wait in the queue. -/
def sortStart (t : TabledGraph) : SortState :=
  let numbers := t.order.map fun id => (id, ((t.dependenciesOf id).length : Int))
  ⟨[], [], numbers, t.order.filter fun id => numbers.lookup id = some 0⟩

/-- The next dependent has its number lowered, and enters the queue when that comes to zero; when none is left the head
of the queue comes out. There is no step at the end, and none with a number to be lowered that is not above zero. -/
def sortStep (t : TabledGraph) (s : SortState) : Option SortState :=
  match s.lowering with
  | id :: rest =>
    match s.numbers.lookup id with
    | some n => if 0 < n then some ⟨s.out, rest, s.numbers.lower id, s.queue ++ if n = 1 then [id] else []⟩ else none
    | none => some { s with lowering := rest }
  | [] =>
    match s.queue with
    | id :: queue => some ⟨s.out ++ [id], t.dependentsOf id, s.numbers, queue⟩
    | [] => none

/-- The sort goes from one state to another. -/
abbrev Sorts (t : TabledGraph) : SortState → SortState → Prop :=
  Relation.ReflTransGen fun s s' => t.sortStep s = some s'

/-- What enters the queue comes after all that has. -/
theorem queued_grows {t : TabledGraph} {s s' : SortState} (step : t.sortStep s = some s') : s.queued <+: s'.queued := by
  obtain ⟨out, lowering, table, queue⟩ := s
  cases lowering with
  | nil =>
    cases queue with
    | nil => cases step
    | cons id queue =>
      cases step
      exact ⟨[], by simp only [SortState.queued, List.append_assoc, List.singleton_append, List.append_nil]⟩
  | cons id rest =>
    simp only [sortStep] at step
    split at step
    · split at step
      · cases step
        exact ⟨_, List.append_assoc ..⟩
      · cases step
    · cases step
      exact List.prefix_rfl

end TabledGraph

namespace SortState

open DependencyGraph

/-- What the numbers and the queue mean at every moment of a sort. -/
structure Exact (g : DependencyGraph) (s : SortState) : Prop where
  numbers : ∀ id ∈ g.order, s.numbers.lookup id = some ((g.waitsFor s.out id + s.lowering.count id : Nat) : Int)
  distinct : s.queued.Nodup
  exact : ∀ id, id ∈ s.queued ↔ id ∈ g.order ∧ g.waitsFor s.out id + s.lowering.count id = 0
  once : s.lowering.Nodup
  pending : ∀ id ∈ s.lowering, ∃ last, s.out.getLast? = some last ∧ g.DependsOn id last

variable {g : DependencyGraph} {s : SortState} {out rest queue : List CheckId} {table : InDegrees} {id : CheckId}

/-- What a check no longer waits for when one it depends on has come out is what is still to be taken off it. -/
theorem waitsFor_snoc_add_count (proper : g.Proper) (fresh : id ∉ out) (other : CheckId) :
    g.waitsFor (out ++ [id]) other + (g.dependents id).count other = g.waitsFor out other := by
  rw [waitsFor_snoc proper fresh]
  by_cases dep : other ∈ g.dependents id
  · rw [if_pos dep, List.count_eq_one_of_mem (proper.nodup_dependents id) dep,
      Nat.sub_add_cancel (waitsFor_pos_of_not_mem proper fresh dep)]
  · rw [if_neg dep, List.count_eq_zero_of_not_mem dep, Nat.add_zero]

theorem exact_of_emitting (h : g.Emitting out table queue) : Exact g ⟨out, [], table, queue⟩ :=
  ⟨h.numbers, h.distinct, h.exact, List.nodup_nil, fun _ mem => absurd mem List.not_mem_nil⟩

namespace Exact

theorem mem_order (h : Exact g s) (mem : id ∈ s.lowering) : id ∈ g.order := by
  obtain ⟨last, _, dep⟩ := h.pending id mem
  exact dep.mem_order

/-- What is to be lowered is above zero. -/
theorem positive (h : Exact g s) (mem : id ∈ s.lowering) : ∃ n, s.numbers.lookup id = some n ∧ 0 < n := by
  refine ⟨_, h.numbers id (h.mem_order mem), ?_⟩
  rw [List.count_eq_one_of_mem h.once mem]
  exact Int.natCast_pos.mpr (Nat.succ_pos _)

/-- A check comes out, and its dependents are to be lowered: each still has it in its number. -/
theorem take (proper : g.Proper) (h : Exact g ⟨out, [], table, id :: queue⟩) :
    Exact g ⟨out ++ [id], g.dependents id, table, queue⟩ := by
  have regroup : out ++ [id] ++ queue = out ++ id :: queue := by rw [List.append_assoc, List.singleton_append]
  have fresh : id ∉ out := fun mem => (List.nodup_append.mp h.distinct).2.2 id mem id List.mem_cons_self rfl
  refine ⟨fun other mem => ?_, ?_, fun other => ?_, proper.nodup_dependents id, fun other dep => ⟨id, ?_, ?_⟩⟩
  · rw [waitsFor_snoc_add_count proper fresh]
    exact h.numbers other mem
  · simpa only [queued, regroup] using h.distinct
  · rw [waitsFor_snoc_add_count proper fresh]
    simpa only [queued, regroup, List.count_nil, Nat.add_zero] using h.exact other
  · exact List.getLast?_concat
  · exact proper.mem_dependents.mp dep

/-- A number is lowered by the one that is still to be taken off it. -/
theorem lower (h : Exact g ⟨out, id :: rest, table, queue⟩) {n : Int} (found : table.lookup id = some n) :
    Exact g ⟨out, rest, table.lower id, queue ++ if n = 1 then [id] else []⟩ := by
  obtain ⟨new, once⟩ := List.nodup_cons.mp h.once
  have mem := h.mem_order List.mem_cons_self
  have none : rest.count id = 0 := List.count_eq_zero_of_not_mem new
  have left : n = g.waitsFor out id + 1 := by
    have number := h.numbers id mem
    simp only [found, List.count_cons_self, none, Option.some.injEq] at number
    omega
  have counted : ∀ other, other ≠ id → (id :: rest).count other = rest.count other := fun other apart =>
    List.count_cons_of_ne (Ne.symm apart)
  -- it still waited for the check that is taken off now
  have away : id ∉ out ++ queue := fun waits => by
    have zero := ((h.exact id).mp waits).2
    rw [List.count_cons_self] at zero
    omega
  have entered : ∀ other, (other ∈ if n = 1 then [id] else []) ↔ n = 1 ∧ other = id := fun other => by
    rw [List.mem_ite_nil_right, List.mem_singleton]
  refine ⟨fun other hother => ?_, ?_, fun other => ?_, once, fun other mem => h.pending other (List.mem_cons_of_mem _ mem)⟩
  · rw [InDegrees.lookup_lower]
    by_cases same : other = id
    · rw [if_pos same, same, found, none, left]
      exact congrArg some (Int.add_sub_cancel _ 1)
    · rw [if_neg same, h.numbers other hother, counted other same]
  · rw [queued, ← List.append_assoc]
    refine List.nodup_append.mpr ⟨h.distinct, ?_, fun a ha b hb e => away (((entered b).mp hb).2 ▸ e ▸ ha)⟩
    split
    · exact List.nodup_singleton id
    · exact List.nodup_nil
  · rw [queued, ← List.append_assoc, List.mem_append, entered]
    by_cases same : other = id
    · subst same
      have zero : n = 1 ↔ g.waitsFor out other = 0 := by omega
      simp only [away, mem, zero, none, false_or, and_true, true_and, Nat.add_zero]
    · rw [← counted other same]
      simpa only [queued, same, and_false, or_false] using h.exact other

/-- Each step keeps what the numbers and the queue mean. -/
theorem step {t : TabledGraph} (same : t.Holds g) (proper : g.Proper) {s s' : SortState} (h : Exact g s)
    (step : t.sortStep s = some s') : Exact g s' := by
  obtain ⟨out, lowering, table, queue⟩ := s
  cases lowering with
  | nil =>
    cases queue with
    | nil => cases step
    | cons id queue =>
      cases step
      rw [same.dependents]
      exact h.take proper
  | cons id rest =>
    obtain ⟨n, found, above⟩ := h.positive List.mem_cons_self
    simp only [TabledGraph.sortStep, found, if_pos above, Option.some.injEq] at step
    exact step ▸ h.lower found

end Exact

end SortState

namespace TabledGraph

open SortState

variable {t : TabledGraph} {g : DependencyGraph} (same : t.Holds g) (proper : g.Proper)

include same proper in
/-- What the numbers and the queue mean is kept all along. -/
theorem Sorts.exact {s s' : SortState} (h : Exact g s) (sorts : t.Sorts s s') : Exact g s' := by
  induction sorts with
  | refl => exact h
  | tail _ step ih => exact ih.step same proper step

include same in
/-- A sort starts where `emit` does. -/
theorem sortStart_eq (kept : t.order = g.order) : t.sortStart = ⟨[], [], g.inDegrees, g.roots⟩ := by
  rw [sortStart, kept, show t.dependenciesOf = g.dependencies from funext same.dependencies]
  rfl

include same proper in
/-- The dependents of the check that came out last are lowered one by one as `relax` lowers them. -/
theorem sorts_relax {out lowering queue : List CheckId} {table : InDegrees} (h : Exact g ⟨out, lowering, table, queue⟩) :
    t.Sorts ⟨out, lowering, table, queue⟩
      ⟨out, [], (table.relax lowering).1, queue ++ (table.relax lowering).2⟩ := by
  induction lowering generalizing table queue with
  | nil =>
    simp only [InDegrees.relax, List.append_nil]
    exact .refl
  | cons id rest ih =>
    obtain ⟨n, found, above⟩ := h.positive List.mem_cons_self
    have step : t.sortStep ⟨out, id :: rest, table, queue⟩ =
        some ⟨out, rest, table.lower id, queue ++ if n = 1 then [id] else []⟩ := by
      simp only [sortStep, found, if_pos above]
    have later := ih (h.step same proper step)
    refine .head step ?_
    simp only [InDegrees.relax, found]
    split
    · rename_i one
      simpa only [one, if_true, List.append_assoc, List.singleton_append] using later
    · rename_i more
      simpa only [more, if_false, List.append_nil] using later

include same proper in
/-- **The sort comes to the end that `emit` computes.** -/
theorem sorts_emit {out queue : List CheckId} {table : InDegrees} (h : Exact g ⟨out, [], table, queue⟩) :
    t.Sorts ⟨out, [], table, queue⟩ ⟨out ++ (g.emit table queue).1, [], (g.emit table queue).2, []⟩ := by
  fun_induction DependencyGraph.emit g table queue generalizing out with
  | case1 =>
    simp only [List.append_nil]
    exact .refl
  | case2 table id queue relaxed sorted last heq =>
    rename_i ih
    have taken : t.sortStep ⟨out, [], table, id :: queue⟩ = some ⟨out ++ [id], g.dependents id, table, queue⟩ := by
      simp only [sortStep, same.dependents]
    have after := h.step same proper taken
    have lowered := sorts_relax same proper after
    have later := ih (Sorts.exact same proper after lowered)
    rw [heq] at later
    simp only [List.append_assoc, List.singleton_append] at later ⊢
    exact .head taken (by simpa using lowered.trans later)

/-! ## The law -/

/-- What can be relied on at a moment of a sort. -/
structure Safe (t : TabledGraph) (s : SortState) : Prop where
  /-- The number of a check is how many of its dependencies are not out, and one more while it is to be lowered. -/
  numbers : ∀ id ∈ t.order, s.numbers.lookup id =
    some (((t.dependenciesOf id).countP (· ∉ s.out) + if id ∈ s.lowering then 1 else 0 : Nat) : Int)
  /-- What is to be lowered depends on the check that came out last, -/
  pending : ∀ id ∈ s.lowering, ∃ last, s.out.getLast? = some last ∧ last ∈ t.dependenciesOf id
  /-- and is above zero. -/
  positive : ∀ id ∈ s.lowering, ∃ n, s.numbers.lookup id = some n ∧ 0 < n
  /-- The sort stops only at the end. -/
  goesOn : t.sortStep s = none → s.lowering = [] ∧ s.queue = []
  /-- No check has entered the queue twice. -/
  once : s.queued.Nodup
  /-- What enters the queue next comes after all that has. -/
  grows : ∀ s', t.sortStep s = some s' → s.queued <+: s'.queued

include same in
theorem safe_of_exact (kept : t.order = g.order) {s : SortState} (h : Exact g s) : t.Safe s := by
  refine ⟨fun id mem => ?_, fun id mem => ?_, fun id mem => h.positive mem, fun stops => ?_, h.distinct,
    fun _ => queued_grows⟩
  · rw [same.dependencies, h.numbers id (kept ▸ mem), h.once.count]
    rfl
  · rw [same.dependencies]
    exact h.pending id mem
  · obtain ⟨out, lowering, table, queue⟩ := s
    cases lowering with
    | nil =>
      cases queue with
      | nil => exact ⟨rfl, rfl⟩
      | cons id queue => cases stops
    | cons id rest =>
      obtain ⟨n, found, above⟩ := h.positive List.mem_cons_self
      simp only [sortStep, found, if_pos above, reduceCtorEq] at stops

/-- **The tables of a working set tell its declarations, and a sort over them keeps every number exact**, with circles or
without. The tables hold the graph of the working set, and the sort comes to the end that `emit` computes on it. -/
theorem sort_numbers_exact {units : List BoundCheck} (distinct : (units.map (·.id)).Nodup) :
    let t := ofUnits units
    let g := DependencyGraph.ofUnits units
    t.Holds g ∧ t.Tells units ∧
      (∀ s, t.Sorts t.sortStart s → t.Safe s) ∧
      t.Sorts t.sortStart ⟨(g.emit g.inDegrees g.roots).1, [], (g.emit g.inDegrees g.roots).2, []⟩ := by
  intro t g
  obtain ⟨order, same⟩ := holds_ofUnits units
  have kept : t.order = g.order := order.trans (DependencyGraph.order_ofUnits units).symm
  have proper : g.Proper := DependencyGraph.proper_ofUnits distinct
  have start : Exact g ⟨[], [], g.inDegrees, g.roots⟩ :=
    exact_of_emitting (DependencyGraph.emitting_roots g proper.distinct)
  rw [sortStart_eq same kept]
  refine ⟨same, tells_ofUnits distinct, fun s sorts => ?_, ?_⟩
  · exact safe_of_exact same kept (Sorts.exact same proper start sorts)
  · simpa only [List.nil_append] using sorts_emit same proper start

end TabledGraph

namespace SampleGate

/-- Documentation that names the types twice and a check that is not there, and types that wait for themselves. -/
def snarled : List BoundCheck :=
  [script "docs" ["types", "tests", "types", "links"] true, script "tests" ["lint"] true,
    script "types" ["types", "lint"] true, script "lint" [] true].map fun s => .ofCheck s.toCheck

theorem distinct_snarled : (snarled.map (·.id)).Nodup := by decide +kernel

end SampleGate

namespace TabledGraph

/-- Linting and the tests come out of the snarl. The types still wait for themselves, and the documentation for them. -/
theorem snarled_numbers :
    let t := ofUnits SampleGate.snarled
    (t.dependenciesOf ⟨"python", "docs"⟩).map (·.name) = ["types", "tests"] ∧
    (t.dependentsOf ⟨"python", "types"⟩).map (·.name) = ["docs", "types"] ∧
    ∃ s, t.Sorts t.sortStart s ∧ s.queued.map (·.name) = ["lint", "tests"] ∧
      s.numbers.map (fun e => (e.1.name, e.2)) = [("docs", 1), ("tests", 0), ("types", 1), ("lint", 0)] ∧ t.Safe s := by
  intro t
  obtain ⟨same, _, safe, ends⟩ := sort_numbers_exact SampleGate.distinct_snarled
  refine ⟨?_, ?_, _, ends, by decide +kernel, by decide +kernel, safe _ ends⟩
  · rw [same.dependencies]
    decide +kernel
  · rw [same.dependents]
    decide +kernel

end TabledGraph

end GateRunner
