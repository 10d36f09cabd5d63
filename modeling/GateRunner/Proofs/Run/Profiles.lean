import GateRunner.Proofs.Run.Sight

/-!
# Profiles and the dependencies of a run

A check is registered as a maker, with a profile that says among other things what the check depends on. The profile may
be given with the maker, and then the two may say different things. A run makes its checks afresh, from the makers and
under its settings, and goes by what these declare: they bring along what they depend on, and wait for it. Of a profile
it sees the id only, under which the maker is filed.

**The law** (`dependencies_of_the_made_check`): other profiles make no difference to a run. What the check that runs
under an id declares and is registered comes along, and if it is scheduled it has passed before the check starts. This
is so over all registries, also where makers do not keep to their ids.
-/

namespace GateRunner

/-! ## Other profiles -/

namespace Registry

/-- The registry with other profiles. The ids under which the makers are filed stay. -/
def withProfiles (g : Registry) (profile : Registration → CheckProfile) : Registry :=
  { g with entries := g.entries.map fun r => { r with profile := { profile r with id := r.id } } }

variable {g g' : Registry} {config : Configuration}

theorem bind?_withProfiles (profile : Registration → CheckProfile) (id : CheckId) :
    (g.withProfiles profile).bind? config id = g.bind? config id := by
  have found : (g.withProfiles profile).find? id =
      (g.find? id).map fun r => { r with profile := { profile r with id := r.id } } := List.find?_map
  rw [bind?, bind?, found, Option.map_map]
  rfl

/-- With other profiles, names stand for the same working set. -/
theorem workingSet_withProfiles (profile : Registration → CheckProfile) (names : List String) :
    (g.withProfiles profile).workingSet config names = g.workingSet config names := by
  have binds : (g.withProfiles profile).bind? config = g.bind? config := funext (bind?_withProfiles profile)
  have selected : (g.withProfiles profile).select config names = g.select config names := by
    rw [select, binds]
    rfl
  rw [workingSet, workingSet, selected, WorkingSet.withDependencies_congr binds]

end Registry

variable {σ : Type} {w : Workers σ} {g : Registry} {limit : SlotLimit} {project : Project} {config : Configuration}
  {names : List String} {switches : RunSwitches} {world : σ}

/-- **Other profiles make no difference to a run.** -/
theorem runNamed_withProfiles (profile : Registration → CheckProfile) :
    runNamed w (g.withProfiles profile) limit project config names switches world =
      runNamed w g limit project config names switches world := by
  have same : (g.withProfiles profile).workingSet config names = g.workingSet config names :=
    Registry.workingSet_withProfiles profile names
  have off : (g.withProfiles profile).switchedOff config names = g.switchedOff config names :=
    congrArg (fun units => (WorkingSet.splitSwitched config units).2) same
  have on : (g.withProfiles profile).switchedOn config names = g.switchedOn config names :=
    congrArg (fun units => (WorkingSet.splitSwitched config units).1) same
  rw [runNamed_eq, runNamed_eq, off, on]

/-! ## What the checks that are made declare -/

/-- Looking up an id among checks with something for each is looking up its check. -/
theorem lookup_map_id {β : Type} (f : BoundCheck → β) (units : List BoundCheck) (id : CheckId) :
    (units.map fun i => (i.id, f i)).lookup id = (units.find? fun i => i.id = id).map f := by
  induction units with
  | nil => rfl
  | cons i rest ih =>
    by_cases same : i.id = id
    · have head : (i :: rest).find? (fun i => i.id = id) = some i := List.find?_cons_of_pos (decide_eq_true same)
      rw [List.map_cons, same, List.lookup_cons_self, head]
      rfl
    · have head : (i :: rest).find? (fun i => i.id = id) = rest.find? fun i => i.id = id :=
        List.find?_cons_of_neg (by simpa using same)
      have other : (id == i.id) = false := beq_eq_false_iff_ne.mpr fun e => same e.symm
      rw [List.map_cons, List.lookup_cons, other, head]
      exact ih

/-- In the graph, an id has the dependencies of the check that runs under it. -/
theorem DependencyGraph.dependencies_ofUnits_of_unit? {a : Assignment} {id : CheckId} {i : BoundCheck}
    (runs : a.unit? id = some i) :
    (ofUnits a.units).dependencies id = dependenciesAmong (a.units.map (·.id)) i := by
  rw [dependencies, ofUnits, ← List.map_reverse, lookup_map_id, show a.units.reverse.find? _ = some i from runs]
  rfl

/-- A registered dependency of a check in the working set is there too, or the check that is made for it is. -/
theorem Registry.exists_mem_workingSet {i : BoundCheck} (hi : i ∈ g.workingSet config names) {d : CheckId}
    (declared : d ∈ i.dependencies) (registered : g.contains d = true) :
    ∃ j ∈ g.workingSet config names, (j.id = d ∨ g.bind? config d = some j) ∧ (g.IdStable → j.id = d) := by
  obtain ⟨j, bound⟩ := exists_bind?_of_contains registered config
  rcases WorkingSet.bringAlong_closed _ _ i hi d declared j bound with known | comes
  · obtain ⟨k, hk, own⟩ := List.mem_map.mp known
    exact ⟨k, List.mem_append_left _ hk, .inl own, fun _ => own⟩
  · exact ⟨j, List.mem_append_right _ comes, .inr bound, fun stable => stable.id_of_bind? bound⟩

/-- **A run goes by what the checks that it makes declare, and by no profile.** Under an id runs the last of its checks
that are on and apply. What this declares and is registered is in the working set, and if it is scheduled too, it has
finished with a pass before the check starts. -/
theorem dependencies_of_the_made_check (w : Workers σ) (g : Registry) (limit : SlotLimit) (project : Project)
    (config : Configuration) (names : List String) (switches : RunSwitches) (world : σ) :
    let report := runNamed w g limit project config names switches world
    let scheduled := g.scheduled project config names
    (∀ profile : Registration → CheckProfile,
      runNamed w (g.withProfiles profile) limit project config names switches world = report) ∧
    ∀ id i, scheduled.reverse.find? (fun i => i.id = id) = some i → ∀ d ∈ i.dependencies,
      (g.contains d = true → ∃ j ∈ g.workingSet config names,
        (j.id = d ∨ g.bind? config d = some j) ∧ (g.IdStable → j.id = d)) ∧
      (d ∈ scheduled.map (·.id) → ∀ early late, report.trace = early ++ .started id :: late →
        ∃ r, .finished r ∈ early ∧ r.check = d ∧ r.isPassed = true) := by
  intro report scheduled
  refine ⟨runNamed_withProfiles, fun id i runs d declared => ⟨fun registered => ?_, fun listed early late split => ?_⟩⟩
  · have hi : i ∈ scheduled := List.mem_reverse.mp (List.mem_of_find?_eq_some runs)
    exact Registry.exists_mem_workingSet (Registry.mem_workingSet_of_mem_scheduled hi) declared registered
  · obtain ⟨announced, _, _, seen, last, sight⟩ := exists_sight w g limit project config names switches world
    have among := DependencyGraph.dependencies_ofUnits_of_unit? (a := g.assignment project config names switches) runs
    have dep : (g.scheduledGraph project config names).DependsOn id d := by
      show d ∈ (DependencyGraph.ofUnits (g.assignment project config names switches).units).dependencies id
      rw [among]
      exact DependencyGraph.mem_dependenciesAmong.mpr ⟨declared, listed⟩
    have begun : early ++ [.started id] <+: report.trace := ⟨late, by rw [split, List.append_assoc]; rfl⟩
    exact sight.passed_before_start begun dep

/-- In the sample gate the documentation declares that it waits for the types, and so it does. -/
theorem sampleGate_docs_after_types :
    let report := runNamed (.replay SampleGate.outcome) SampleGate.registry ⟨2, by decide⟩ default .default
      SampleGate.names ⟨true, false⟩ (SampleGate.batches true)
    .started ⟨"python", "docs"⟩ ∈ report.trace ∧
    (∃ j ∈ SampleGate.registry.workingSet .default SampleGate.names, j.id = ⟨"python", "types"⟩) ∧
    ∀ early late, report.trace = early ++ .started ⟨"python", "docs"⟩ :: late →
      ∃ r, .finished r ∈ early ∧ r.check = ⟨"python", "types"⟩ ∧ r.isPassed = true := by
  intro report
  have started : .started ⟨"python", "docs"⟩ ∈ report.trace := by decide +kernel
  have declares : ((SampleGate.registry.scheduled default .default SampleGate.names).reverse.find? fun i =>
      i.id = ⟨"python", "docs"⟩).map (·.dependencies) = some [⟨"python", "types"⟩] := by decide +kernel
  obtain ⟨i, runs, declared⟩ := Option.map_eq_some_iff.mp declares
  obtain ⟨comes, waits⟩ := (dependencies_of_the_made_check (.replay SampleGate.outcome) SampleGate.registry ⟨2, by decide⟩
    default .default SampleGate.names ⟨true, false⟩ (SampleGate.batches true)).2 _ i runs ⟨"python", "types"⟩
    (declared ▸ List.mem_cons_self)
  obtain ⟨j, hj, _, own⟩ := comes (by decide +kernel)
  exact ⟨started, ⟨j, hj, own SampleGate.stable⟩, waits (by decide +kernel)⟩

namespace SampleGate

/-- Types and tests. The tests are registered with a profile that has them wait for the types, but the check that is made
waits for nothing. -/
def profiled : Registry :=
  ((Registry.ofScripts [script "types" [] true]).addAs (fun _ => (script "tests" [] true).toCheck)
    ⟨⟨"python", "tests"⟩, "tests", [⟨"python", "types"⟩], false⟩).2

end SampleGate

/-- The types are registered, and the profile of the tests has them as a dependency; but they do not come along with the
tests, and where both are asked for the tests start first. -/
theorem dependency_of_a_profile_ignored :
    let tests : CheckId := ⟨"python", "tests"⟩
    let types : CheckId := ⟨"python", "types"⟩
    let trace (names : List String) := (runNamed (.replay SampleGate.outcome) SampleGate.profiled ⟨1, by decide⟩ default
      .default names ⟨true, true⟩ []).trace
    (SampleGate.profiled.profile? tests).map (·.dependencies) = some [types] ∧
    SampleGate.profiled.contains types = true ∧
    (SampleGate.profiled.scheduled default .default ["python:tests"]).map (·.id) = [tests] ∧
    (SampleGate.profiled.workingSet .default ["python:tests"]).map (·.id) = [tests] ∧
    (trace ["python:tests"]).filterMap Event.started? = [tests] ∧
    (SampleGate.profiled.scheduled default .default ["python:tests", "python:types"]).map (·.id) = [tests, types] ∧
    (trace ["python:tests", "python:types"]).filterMap Event.started? = [tests, types] := by
  decide +kernel

end GateRunner
