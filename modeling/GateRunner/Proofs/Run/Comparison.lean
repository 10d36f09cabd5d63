import GateRunner.Proofs.Run.Faults
import GateRunner.Proofs.WorkingSet.Part

/-!
# A run and a part of it

Two runs over one registry and one project may schedule different checks. When what the one schedules is a closed part
of what the other does, each check of the part sees the same dependencies in both, so without fail-fast it comes out the
same, whatever the schedules.

**The law** (`results_of_part`): if the larger run ends with a summary so does the smaller one, and one function gives
the results of both.
-/

namespace GateRunner

variable {g : Registry} {project : Project} {config config' : Configuration} {names names' : List String} {σ τ : Type}
  {w : Workers σ} {w' : Workers τ} {outcome : CheckId → CheckResult}

/-- A run that ended with a summary had no circle among the checks that it scheduled. -/
theorem acyclic_of_summary (stable : g.IdStable) {limit : SlotLimit} {switches : RunSwitches} {world : σ} {summary : RunSummary}
    (ended : (runNamed w g limit project config names switches world).outcome = .ok summary) :
    (DependencyGraph.ofUnits (g.scheduled project config names)).Acyclic := by
  refine (WorkingSet.acyclic_ofUnits_iff (stable.nodup_scheduled project names)).mpr fun circle => ?_
  obtain ⟨_, _, same⟩ := runNamed_of_circle (w := w) stable circle limit switches world
  rw [same] at ended
  cases ended

/-- Without fail-fast, the summary of a run has the results to expect. -/
theorem exists_summary_expected (stable : g.IdStable)
    (acyclic : (DependencyGraph.ofUnits (g.scheduled project config names)).Acyclic) (limit : SlotLimit) (fixFirst : Bool)
    {world : σ} (diligent : w.Diligent (g.jobs project config names fixFirst) world)
    (faithful : w.Faithful (g.jobs project config names fixFirst) world outcome) :
    ∃ summary, (runNamed w g limit project config names ⟨fixFirst, false⟩ world).outcome = .ok summary ∧
      summary.results = reported project (g.switchedOn config names)
        ((DependencyGraph.ofUnits (g.scheduled project config names)).expected acyclic outcome) := by
  obtain ⟨_, account, _, ended⟩ := runNamed_account stable acyclic limit ⟨fixFirst, false⟩ diligent faithful
  have whole := account.whole.resolve_right fun stopped => Bool.noConfusion stopped.1
  exact ⟨_, ended, reported_congr fun i hi => whole i.id (mem_order_of_scheduled hi)⟩

/-- **If the larger run ends with a summary so does the smaller one, and one function gives the results of both.** -/
theorem results_of_part (stable : g.IdStable)
    (part : WorkingSet.ClosedPart (g.scheduled project config' names') (g.scheduled project config names))
    {limit limit' : SlotLimit} {fixFirst fixFirst' : Bool} {world : σ} {world' : τ}
    (diligent : w.Diligent (g.jobs project config names fixFirst) world)
    (diligent' : w'.Diligent (g.jobs project config' names' fixFirst') world')
    (faithful : w.Faithful (g.jobs project config names fixFirst) world outcome)
    (faithful' : w'.Faithful (g.jobs project config' names' fixFirst') world' outcome) {summary : RunSummary}
    (ended : (runNamed w g limit project config names ⟨fixFirst, false⟩ world).outcome = .ok summary) :
    ∃ (result : CheckId → CheckResult) (summary' : RunSummary), (∀ id, (result id).check = id) ∧
      (runNamed w' g limit' project config' names' ⟨fixFirst', false⟩ world').outcome = .ok summary' ∧
      summary.results = reported project (g.switchedOn config names) result ∧
      summary'.results = reported project (g.switchedOn config' names') result := by
  have distinct : ((g.scheduled project config names).map (·.id)).Nodup := stable.nodup_scheduled project names
  have distinct' : ((g.scheduled project config' names').map (·.id)).Nodup := stable.nodup_scheduled project names'
  have acyclic := acyclic_of_summary stable ended
  have acyclic' := (WorkingSet.acyclic_ofUnits_iff distinct').mpr
    (part.not_hasCircle ((WorkingSet.acyclic_ofUnits_iff distinct).mp acyclic))
  obtain ⟨_, same, results⟩ := exists_summary_expected stable acyclic limit fixFirst diligent faithful
  obtain ⟨summary', ended', results'⟩ :=
    exists_summary_expected stable acyclic' limit' fixFirst' diligent' faithful'
  rw [ended] at same
  cases same
  refine ⟨_, summary', fun id => DependencyGraph.check_expected, ended', results, results'.trans (reported_congr ?_)⟩
  exact fun i hi => part.expected_eq_whole distinct distinct' outcome hi

end GateRunner
