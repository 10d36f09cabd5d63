import GateRunner.Proofs.Run.Honesty
import GateRunner.Proofs.Run.Report

/-!
# Results do not depend on the schedule

Without fail-fast nothing stops a run, so each check that applies comes out as is expected of it. What is expected
follows from the graph and from what the checks come out as when they are executed; order, batches and slots are not in
it. So two runs give the same results because both give the expected ones: nothing need be said of how one schedule
turns into another.

**The law** (`results_independent_of_schedule`): whenever the graph of the checks to be scheduled is accepted, any two
runs without fail-fast end with the same list of results, in which every scheduled check has the expected one.
-/

namespace GateRunner

/-- **Results do not depend on the schedule.** Any two runs without fail-fast, under any workers that answer and whose
checks come out as `outcome` says, and with any slots, end with the same results, those that are expected. -/
theorem results_independent_of_schedule {g : Registry} {project : Project} {config : Configuration}
    {names : List String} {graph : DependencyGraph} (stable : g.IdStable)
    (accepted : DependencyGraph.ofAcyclic (g.scheduled project config names) = .ok graph)
    {outcome : CheckId → CheckResult} {σ τ : Type} {w : Workers σ} {w' : Workers τ} (limit limit' : SlotLimit)
    (fixFirst fixFirst' : Bool) {world : σ} {world' : τ}
    (diligent : w.Diligent (g.jobs project config names fixFirst) world)
    (diligent' : w'.Diligent (g.jobs project config names fixFirst') world')
    (faithful : w.Faithful (g.jobs project config names fixFirst) world outcome)
    (faithful' : w'.Faithful (g.jobs project config names fixFirst') world' outcome) :
    ∃ (acyclic : graph.Acyclic) (summary summary' : RunSummary),
      (runNamed w g limit project config names ⟨fixFirst, false⟩ world).outcome = .ok summary ∧
      (runNamed w' g limit' project config names ⟨fixFirst', false⟩ world').outcome = .ok summary' ∧
      (∀ i ∈ g.scheduled project config names, summary.result? i.id = some (graph.expected acyclic outcome i.id)) ∧
      summary.results = summary'.results := by
  obtain ⟨rfl, acyclic⟩ := (DependencyGraph.ofAcyclic_eq_ok_iff (stable.nodup_scheduled project names)).mp accepted
  obtain ⟨result, account, _, ended⟩ := runNamed_account stable acyclic limit ⟨fixFirst, false⟩ diligent faithful
  obtain ⟨result', account', _, ended'⟩ :=
    runNamed_account stable acyclic limit' ⟨fixFirst', false⟩ diligent' faithful'
  have whole := account.whole.resolve_right fun stopped => Bool.noConfusion stopped.1
  have whole' := account'.whole.resolve_right fun stopped => Bool.noConfusion stopped.1
  refine ⟨acyclic, _, _, ended, ended', ?_, reported_congr ?_⟩
  · intro i hi
    rw [account.result?_eq stable _ (mem_order_of_scheduled hi), whole i.id (mem_order_of_scheduled hi)]
  · intro i hi
    rw [whole i.id (mem_order_of_scheduled hi), whole' i.id (mem_order_of_scheduled hi)]

namespace SampleGate

/-- What a run of the sample schedules follows the scripts. -/
theorem exists_script {i : BoundCheck} (hi : i ∈ scheduled) : ∃ s ∈ scripts, i = .ofCheck s.toCheck := by
  have bound := stable.bind?_of_mem_workingSet (Registry.mem_workingSet_of_mem_scheduled hi)
  obtain ⟨r, hr, _, made⟩ := Registry.exists_entry_of_bind? bound
  obtain ⟨s, hs, follows⟩ := Registry.exists_script_of_mem_ofScripts hr
  exact ⟨s, hs, follows _ ▸ made⟩

/-- The checks of the sample come out on the clock as they should, whatever project they meet. -/
theorem clock_faithful (fixFirst : Bool) (project : Project) :
    Clock.workers.Faithful (registry.jobs default .default names fixFirst) (Clock.atZero project) outcome := by
  refine Clock.faithful project fun q hq begun met => ?_
  obtain ⟨i, hi, rfl⟩ := List.mem_map.mp hq
  obtain ⟨s, hs, rfl⟩ := exists_script hi
  simp only [scripts, List.mem_cons, List.not_mem_nil, or_false] at hs
  cases fixFirst <;> rcases hs with rfl | rfl | rfl | rfl | rfl | rfl <;> rfl

end SampleGate

/-- One slot or two, a schedule that was laid down or the virtual clock: the sample gate comes out the same. -/
theorem sampleGate_independent :
    ∃ (acyclic : SampleGate.graph.Acyclic) (summary summary' : RunSummary),
      (runNamed (.replay SampleGate.outcome) SampleGate.registry ⟨1, by decide⟩ default .default SampleGate.names
        ⟨true, false⟩ (SampleGate.batches true)).outcome = .ok summary ∧
      (runNamed Clock.workers SampleGate.registry ⟨2, by decide⟩ default .default SampleGate.names
        ⟨false, false⟩ (Clock.atZero default)).outcome = .ok summary' ∧
      (∀ i ∈ SampleGate.scheduled,
        summary.result? i.id = some (SampleGate.graph.expected acyclic SampleGate.outcome i.id)) ∧
      summary.results = summary'.results :=
  results_independent_of_schedule SampleGate.stable SampleGate.accepted _ _ _ _ (SampleGate.diligent true)
    (Clock.diligent _ _) (SampleGate.faithful true) (SampleGate.clock_faithful _ _)

end GateRunner
