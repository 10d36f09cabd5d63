import GateRunner.Proofs.Run.Comparison

/-!
# Requests and what they cover

Names stand for ids, and a request covers another when the registered ids of the other are among its own; order,
spelling and repetition make no difference. A covered request has a working set that is a closed part of the one of the
request that covers it, because a working set has with each check all that it depends on, as far as it is registered. So
what is off in the one is off in the other, and what both schedule sees the same dependencies.

**The law** (`covered_request_same_results`): a check has in the summary of a covered request the result that it has in
that of the covering one. Requests that cover each other have the same results, up to their order.
-/

namespace GateRunner

variable {g : Registry} {project : Project} {config : Configuration} {names fewer : List String}

namespace Registry

/-- Every registered id that some names stand for is among those that other names stand for. -/
def Covers (g : Registry) (names fewer : List String) : Prop :=
  ∀ id ∈ g.idsOfAll fewer, g.contains id = true → id ∈ g.idsOfAll names

instance (g : Registry) (names fewer : List String) : Decidable (g.Covers names fewer) := by
  unfold Covers; infer_instance

variable (stable : g.IdStable) (covers : g.Covers names fewer)
include stable

/-- A check that is bound for an id of the working set is the one in the set. -/
theorem mem_workingSet_of_bind? {id : CheckId} {i : BoundCheck} (bound : g.bind? config id = some i)
    (present : id ∈ (g.workingSet config names).map (·.id)) : i ∈ g.workingSet config names := by
  obtain ⟨j, hj, rfl⟩ := List.mem_map.mp present
  have same := stable.bind?_of_mem_workingSet hj
  rw [bound] at same
  cases same
  exact hj

include covers

/-- What a covered request brings along comes along with the covering one. -/
theorem workingSet_subset : g.workingSet config fewer ⊆ g.workingSet config names := by
  refine WorkingSet.withDependencies_least (P := (· ∈ g.workingSet config names)) ?_ ?_
  · intro i hi d hd j bound
    exact mem_workingSet_of_bind? stable bound (WorkingSet.withDependencies_closed stable i hi d hd j bound)
  · intro i hi
    obtain ⟨id, hid, bound⟩ := mem_select.mp hi
    exact List.mem_append_left _ (mem_select.mpr ⟨id, covers id hid (contains_of_bind? bound), bound⟩)

/-- **The working set of a covered request is a closed part of that of the covering one.** -/
theorem closedPart_workingSet : WorkingSet.ClosedPart (g.workingSet config fewer) (g.workingSet config names) where
  subset := workingSet_subset stable covers
  closed := by
    intro i hi d hd present
    obtain ⟨j, hj, rfl⟩ := List.mem_map.mp present
    exact WorkingSet.withDependencies_closed stable i hi _ hd j (stable.bind?_of_mem_workingSet hj)

theorem closedPart_switchedOn : WorkingSet.ClosedPart (g.switchedOn config fewer) (g.switchedOn config names) :=
  (closedPart_workingSet stable covers).splitSwitched (stable.nodup_workingSet names) config

theorem closedPart_scheduled (project : Project) :
    WorkingSet.ClosedPart (g.scheduled project config fewer) (g.scheduled project config names) :=
  (closedPart_switchedOn stable covers).filter (stable.nodup_switchedOn names) _

/-- Requests that cover each other have the same checks on, up to their order. -/
theorem perm_switchedOn (covers' : g.Covers fewer names) :
    (g.switchedOn config fewer).Perm (g.switchedOn config names) :=
  (List.perm_ext_iff_of_nodup ((stable.nodup_switchedOn fewer).of_map _) ((stable.nodup_switchedOn names).of_map _)).mpr
    fun _ => ⟨fun h => (closedPart_switchedOn stable covers).subset h,
      fun h => (closedPart_switchedOn stable covers').subset h⟩

end Registry

/-- **A covered request gives its checks the results that they have in the covering one.** -/
theorem covered_request_same_results (stable : g.IdStable) (covers : g.Covers names fewer)
    {outcome : CheckId → CheckResult} {σ τ : Type} {w : Workers σ} {w' : Workers τ} (limit limit' : SlotLimit)
    (fixFirst fixFirst' : Bool) {world : σ} {world' : τ}
    (diligent : w.Diligent (g.jobs project config names fixFirst) world)
    (diligent' : w'.Diligent (g.jobs project config fewer fixFirst') world')
    (faithful : w.Faithful (g.jobs project config names fixFirst) world outcome)
    (faithful' : w'.Faithful (g.jobs project config fewer fixFirst') world' outcome) {summary : RunSummary}
    (ended : (runNamed w g limit project config names ⟨fixFirst, false⟩ world).outcome = .ok summary) :
    ∃ summary', (runNamed w' g limit' project config fewer ⟨fixFirst', false⟩ world').outcome = .ok summary' ∧
      (∀ id r, summary'.result? id = some r → summary.result? id = some r) ∧
      (g.Covers fewer names → summary'.results.Perm summary.results) := by
  obtain ⟨result, summary', own, ended', results, results'⟩ := results_of_part stable
    (Registry.closedPart_scheduled stable covers project) diligent diligent' faithful faithful' ended
  refine ⟨summary', ended', fun id r found => ?_, fun covers' => ?_⟩
  · have mem : r ∈ summary'.results := List.mem_of_find?_eq_some found
    have check : r.check = id := by simpa only [decide_eq_true_eq] using List.find?_some found
    have distinct : (summary.results.map (·.check)).Nodup := by
      rw [results, map_check_reported fun i _ _ => own i.id]
      exact stable.nodup_switchedOn names
    rw [results'] at mem
    have mem' : r ∈ summary.results :=
      results ▸ List.map_subset _ (Registry.closedPart_switchedOn stable covers).subset mem
    exact check ▸ CheckId.find?_of_nodup distinct mem'
  · rw [results, results']
    exact (Registry.perm_switchedOn stable covers covers').map _

namespace SampleGate

/-- The sample with a name for the documentation and the tests. -/
def grouped : Registry := registry.nameGroup "suite" [⟨"python", "docs"⟩, ⟨"python", "tests"⟩]

/-- Two checks, each by its own name. -/
def plainNames : List String := ["python:tests", "python:docs"]

/-- The same two under one name, one of them once more, and a name for nothing. -/
def groupNames : List String := ["suite", "nobody", "python:tests"]

theorem grouped_stable : grouped.IdStable := stable

theorem grouped_accepted : DependencyGraph.ofAcyclic (grouped.scheduled default .default plainNames) =
    .ok (.ofUnits (grouped.scheduled default .default plainNames)) := by decide +kernel

end SampleGate

/-- The documentation and the tests may be asked for under one name: only the order changes. -/
theorem sampleGate_grouped :
    ∃ summary summary' : RunSummary,
      (runNamed (.replay SampleGate.outcome) SampleGate.grouped ⟨2, by decide⟩ default .default SampleGate.plainNames
        ⟨true, false⟩ (SampleGate.batches true)).outcome = .ok summary ∧
      (runNamed (.replay SampleGate.outcome) SampleGate.grouped ⟨1, by decide⟩ default .default SampleGate.groupNames
        ⟨true, false⟩ (SampleGate.batches false)).outcome = .ok summary' ∧
      (∀ id r, summary'.result? id = some r → summary.result? id = some r) ∧
      summary'.results.Perm summary.results ∧
      summary'.results.map (·.check.name) = ["docs", "tests", "types", "lint", "format"] := by
  have covers : SampleGate.grouped.Covers SampleGate.plainNames SampleGate.groupNames := by decide +kernel
  have covers' : SampleGate.grouped.Covers SampleGate.groupNames SampleGate.plainNames := by decide +kernel
  have acyclic := ((DependencyGraph.ofAcyclic_eq_ok_iff (SampleGate.grouped_stable.nodup_scheduled _ _)).mp
    SampleGate.grouped_accepted).2
  obtain ⟨summary, ended, _⟩ := exists_summary_expected SampleGate.grouped_stable acyclic ⟨2, by decide⟩ true
    (SampleGate.diligent true) (SampleGate.faithful true)
  obtain ⟨summary', ended', same, perm⟩ := covered_request_same_results SampleGate.grouped_stable covers
    ⟨2, by decide⟩ ⟨1, by decide⟩ true true (SampleGate.diligent true) (SampleGate.diligent false)
    (SampleGate.faithful true) (SampleGate.faithful false) ended
  have order : (runNamed (.replay SampleGate.outcome) SampleGate.grouped ⟨1, by decide⟩ default .default
      SampleGate.groupNames ⟨true, false⟩ (SampleGate.batches false)).outcome.toOption.map
        (fun s => s.results.map (·.check.name)) = some ["docs", "tests", "types", "lint", "format"] := by
    decide +kernel
  rw [ended'] at order
  exact ⟨summary, summary', ended, ended', same, perm covers', Option.some.inj order⟩

end GateRunner
