import GateRunner.Proofs.Graph.Edges

/-!
# Graphs in tables

A graph can be kept in two tables, so that what a check depends on and what depends on it are both read off an entry.
The tables are filled side by side. A declared dependency that is present and was not met before goes on the list of the
check, and in the same moment the check goes on the list of those that depend on it (`Meeting.meet`).

**The law** (`holds_ofUnits`): whatever checks are entered, repeated ones included, the tables hold what
`DependencyGraph.ofUnits` does. Where no check stands twice, they tell what the checks declare (`tells_ofUnits`): the two
tables are converses of each other, with no repetition in either.
-/

namespace GateRunner

/-- The checks of a run in order, with a table of what each depends on and a table of what depends on each. -/
structure TabledGraph where
  order : List CheckId
  dependencies : AList fun _ : CheckId => List CheckId
  dependents : AList fun _ : CheckId => List CheckId

namespace TabledGraph

/-- Checks with nothing in the tables yet. -/
def bare (order : List CheckId) : TabledGraph := ⟨order, ∅, ∅⟩

/-- What the tables list for a check to depend on. -/
def dependenciesOf (t : TabledGraph) (id : CheckId) : List CheckId := (t.dependencies.lookup id).getD []

/-- What the tables list to depend on a check. -/
def dependentsOf (t : TabledGraph) (id : CheckId) : List CheckId := (t.dependents.lookup id).getD []

/-- The tables with one check more that depends on another. -/
def addDependent (t : TabledGraph) (id dependent : CheckId) : TabledGraph :=
  { t with dependents := t.dependents.insert id (t.dependentsOf id ++ [dependent]) }

/-- One declared dependency of a check looked at: it counts if it is present and not among those that were met. -/
def meet (id : CheckId) (met : List CheckId × TabledGraph) (d : CheckId) : List CheckId × TabledGraph :=
  if d ∈ met.2.order ∧ d ∉ met.1 then (met.1 ++ [d], met.2.addDependent d id) else met

/-- The tables with one check more and its dependencies. -/
def enter (t : TabledGraph) (i : BoundCheck) : TabledGraph :=
  let met := i.dependencies.foldl (meet i.id) ([], t)
  { met.2 with dependencies := met.2.dependencies.insert i.id met.1 }

/-- The graph of a working set in tables. -/
def ofUnits (units : List BoundCheck) : TabledGraph := units.foldl enter (bare (units.map (·.id)))

/-! ## One check entered -/

/-- What the tables hold while the dependencies of a check are met, beside what they held before. -/
structure Meeting (t : TabledGraph) (id : CheckId) (met : List CheckId × TabledGraph) : Prop where
  order : met.2.order = t.order
  dependencies : met.2.dependencies = t.dependencies
  dependents : ∀ d, met.2.dependentsOf d = t.dependentsOf d ++ if d ∈ met.1 then [id] else []

variable {t : TabledGraph} {id : CheckId} {met : List CheckId × TabledGraph}

theorem dependentsOf_addDependent (t : TabledGraph) (id dependent other : CheckId) :
    (t.addDependent id dependent).dependentsOf other =
      if id = other then t.dependentsOf id ++ [dependent] else t.dependentsOf other := by
  unfold addDependent
  simp only [dependentsOf, lookup_insert_ite]
  split <;> rfl

/-- Each dependency that counts is entered on both sides. -/
theorem Meeting.meet (h : Meeting t id met) (d : CheckId) : Meeting t id (meet id met d) := by
  unfold TabledGraph.meet
  split
  · rename_i new
    refine ⟨h.order, h.dependencies, fun other => ?_⟩
    rw [dependentsOf_addDependent, h.dependents, h.dependents, if_neg new.2, List.append_nil]
    by_cases same : d = other
    · rw [if_pos same, if_pos (by simp [same]), same]
    · rw [if_neg same]
      simp only [List.mem_append, List.mem_singleton, Ne.symm same, or_false]
  · exact h

/-- What has been met are the first occurrences of the declared dependencies that are present. -/
theorem meet_fst (h : Meeting t id met) (d : CheckId) :
    (TabledGraph.meet id met d).1 = if d ∈ t.order then CheckId.seeNext met.1 d else met.1 := by
  unfold TabledGraph.meet CheckId.seeNext
  rw [h.order]
  by_cases present : d ∈ t.order
  · by_cases seen : d ∈ met.1
    · simp only [seen, not_true, and_false, if_false, if_true, ite_self]
    · simp only [present, seen, not_false_eq_true, and_self, if_true, if_false]
  · simp only [present, false_and, if_false]

theorem Meeting.foldl (h : Meeting t id met) (declared : List CheckId) :
    Meeting t id (declared.foldl (TabledGraph.meet id) met) ∧
      (declared.foldl (TabledGraph.meet id) met).1 =
        (declared.filter (· ∈ t.order)).foldl CheckId.seeNext met.1 := by
  induction declared generalizing met with
  | nil => exact ⟨h, rfl⟩
  | cons d rest ih =>
    obtain ⟨after, seen⟩ := ih (h.meet d)
    refine ⟨after, seen.trans ?_⟩
    rw [meet_fst h]
    by_cases present : d ∈ t.order
    · rw [if_pos present, List.filter_cons_of_pos (by simpa using present), List.foldl_cons]
    · rw [if_neg present, List.filter_cons_of_neg (by simpa using present)]

/-- A check is listed with its dependencies, and with each of these once as what depends on it. -/
theorem enter_spec (t : TabledGraph) (i : BoundCheck) :
    (t.enter i).order = t.order ∧
    (∀ id, (t.enter i).dependenciesOf id =
      if i.id = id then DependencyGraph.dependenciesAmong t.order i else t.dependenciesOf id) ∧
    ∀ d, (t.enter i).dependentsOf d =
      t.dependentsOf d ++ if d ∈ DependencyGraph.dependenciesAmong t.order i then [i.id] else [] := by
  have start : Meeting t i.id ([], t) := ⟨rfl, rfl, fun d => by simp only [List.not_mem_nil, if_false, List.append_nil]⟩
  obtain ⟨after, seen⟩ := start.foldl i.dependencies
  rw [← CheckId.firstOccurrences_eq_foldl, ← DependencyGraph.dependenciesAmong] at seen
  refine ⟨after.order, fun id => ?_, fun d => seen ▸ after.dependents d⟩
  simp only [enter, dependenciesOf, lookup_insert_ite, seen, after.dependencies]
  split <;> rfl

/-! ## All checks entered -/

/-- The tables hold what a graph does. -/
structure Holds (t : TabledGraph) (g : DependencyGraph) : Prop where
  dependencies : ∀ id, t.dependenciesOf id = g.dependencies id
  dependents : ∀ id, t.dependentsOf id = g.dependents id

/-- A check entered into the tables is a node more in the graph. -/
theorem Holds.enter {nodes : List (CheckId × List CheckId)} (same : t.Holds ⟨nodes⟩) (i : BoundCheck) :
    (t.enter i).Holds ⟨nodes ++ [(i.id, DependencyGraph.dependenciesAmong t.order i)]⟩ := by
  obtain ⟨_, dependencies, dependents⟩ := enter_spec t i
  constructor
  · intro id
    rw [dependencies, same.dependencies]
    simp only [DependencyGraph.dependencies, List.reverse_append, List.reverse_cons, List.reverse_nil, List.nil_append,
      List.cons_append, lookup_cons_ite, eq_comm (a := id)]
    split <;> rfl
  · intro d
    rw [dependents, same.dependents]
    simp only [DependencyGraph.dependents, List.filter_append, List.map_append]
    by_cases mem : d ∈ DependencyGraph.dependenciesAmong t.order i
    · simp [mem]
    · simp [mem]

theorem Holds.foldl {nodes : List (CheckId × List CheckId)} (same : t.Holds ⟨nodes⟩) (units : List BoundCheck) :
    (units.foldl TabledGraph.enter t).order = t.order ∧
      (units.foldl TabledGraph.enter t).Holds
        ⟨nodes ++ units.map fun i => (i.id, DependencyGraph.dependenciesAmong t.order i)⟩ := by
  induction units generalizing t nodes with
  | nil => exact ⟨rfl, by simpa only [List.foldl_nil, List.map_nil, List.append_nil] using same⟩
  | cons i rest ih =>
    have kept := (enter_spec t i).1
    obtain ⟨order, holds⟩ := ih (same.enter i)
    rw [kept] at order holds
    exact ⟨order, by simpa only [List.foldl_cons, List.map_cons, List.append_assoc, List.singleton_append] using holds⟩

/-- **The tables of a working set hold its graph.** -/
theorem holds_ofUnits (units : List BoundCheck) :
    (ofUnits units).order = units.map (·.id) ∧ (ofUnits units).Holds (DependencyGraph.ofUnits units) := by
  have nothing : (bare (units.map (·.id))).Holds ⟨[]⟩ := ⟨fun _ => rfl, fun _ => rfl⟩
  exact nothing.foldl units

/-- The tables tell what the checks of a working set declare. -/
structure Tells (t : TabledGraph) (units : List BoundCheck) : Prop where
  /-- The checks stand in the order of the working set. -/
  order : t.order = units.map (·.id)
  /-- A check is listed with what it declares and is present. -/
  declared : ∀ i ∈ units, ∀ d, d ∈ t.dependenciesOf i.id ↔ d ∈ i.dependencies ∧ d ∈ units.map (·.id)
  /-- What it declares first is listed first. -/
  inOrder : ∀ i ∈ units, (t.dependenciesOf i.id).Pairwise (Precedes i.dependencies)
  /-- A check depends on another one exactly when that has it as a dependent. -/
  converse : ∀ id d, d ∈ t.dependenciesOf id ↔ id ∈ t.dependentsOf d
  /-- Each is listed once with the other. -/
  once : ∀ id d, d ∈ t.dependenciesOf id → (t.dependenciesOf id).count d = 1 ∧ (t.dependentsOf d).count id = 1
  /-- Dependents stand in the order of the working set. -/
  ranked : ∀ d, (t.dependentsOf d).Sublist (units.map (·.id))

/-- **The tables of a working set without repetition tell what its checks declare.** -/
theorem tells_ofUnits {units : List BoundCheck} (distinct : (units.map (·.id)).Nodup) : (ofUnits units).Tells units := by
  obtain ⟨order, same⟩ := holds_ofUnits units
  have proper := DependencyGraph.proper_ofUnits distinct
  have listed : ∀ i ∈ units, (ofUnits units).dependenciesOf i.id = DependencyGraph.dependenciesAmong (units.map (·.id)) i :=
    fun i hi => (same.dependencies i.id).trans (DependencyGraph.dependencies_ofUnits distinct hi)
  have converse : ∀ id d, d ∈ (ofUnits units).dependenciesOf id ↔ id ∈ (ofUnits units).dependentsOf d := fun id d => by
    rw [same.dependencies, same.dependents, proper.mem_dependents, DependencyGraph.DependsOn]
  refine ⟨order, fun i hi d => ?_, fun i hi => ?_, converse, fun id d mem => ⟨?_, ?_⟩, fun d => ?_⟩
  · rw [listed i hi, DependencyGraph.mem_dependenciesAmong]
  · rw [listed i hi, DependencyGraph.dependenciesAmong, CheckId.firstOccurrences_filter]
    exact (CheckId.pairwise_firstOccurrences i.dependencies).sublist List.filter_sublist
  · exact List.count_eq_one_of_mem (same.dependencies id ▸ proper.nodup_dependencies id) mem
  · exact List.count_eq_one_of_mem (same.dependents d ▸ proper.nodup_dependents d) ((converse id d).mp mem)
  · rw [same.dependents, ← DependencyGraph.order_ofUnits]
    exact List.Sublist.map _ List.filter_sublist

end TabledGraph

end GateRunner
