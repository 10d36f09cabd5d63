import GateRunner.Proofs.Run.Report
import GateRunner.Proofs.Schedule.Reachable

/-!
# No check is lost, and none comes up twice

Checks change places at six points of the loop, and the summary is put together from the results of the schedule and
those of the checks that do not apply. Neither loses a check. In every state that a run comes to, each check of the graph
is pending, in flight or finished, and only one of these (`Reachable.census`); so when nothing is pending or in flight
each has its result, under its own id, and the summary goes through the checks that are on in their order.

**The law** (`each_check_reported_once`): the summary of a run has one result for each check that is on, first for those
that were asked for, then for those that came along. Workers need not answer for this: if there is a summary, it is
complete.
-/

namespace GateRunner

open ScheduleState

variable {σ : Type} {w : Workers σ} {a : Assignment} {limit : SlotLimit}

/-- **In every state that a run comes to, each check is in one place**, and what has finished is what has a result. -/
theorem ScheduleState.Reachable.census {first t : ScheduleState} {start : σ} (reachable : Reachable w a first start t)
    (h : first.Consistent) :
    (t.pending ++ t.running ++ t.finished).Nodup ∧ (t.pending ++ t.running ++ t.finished).Perm first.graph.order ∧
      t.results.map (·.check) = t.finished := by
  have consistent := reachable.consistent h
  exact ⟨consistent.nodup, reachable.graph_eq h ▸ consistent.parted, consistent.recorded.symm⟩

/-- A summary of distinct checks has a result for each of them, in their order. -/
theorem checks_of_runSwitchedOn {project : Project} {switches : RunSwitches} {units : List BoundCheck}
    (distinct : (units.map (·.id)).Nodup) {seen : List Event} (unseen : ∀ id, .started id ∉ seen) {world : σ}
    {summary : RunSummary} (ended : (runSwitchedOn w limit project switches units seen world).outcome = .ok summary) :
    summary.results.map (·.check) = units.map (·.id) := by
  have distinct' := WorkingSet.nodup_splitApplicable distinct project
  cases accepted : DependencyGraph.ofAcyclic (WorkingSet.splitApplicable project units).1 with
  | error e =>
    rw [runSwitchedOn_of_refused accepted] at ended
    cases ended
  | ok graph =>
    obtain ⟨rfl, acyclic⟩ := (DependencyGraph.ofAcyclic_eq_ok_iff distinct').mp accepted
    have results : ∃ result : CheckId → CheckResult, (∀ id, (result id).check = id) ∧
        summary.results = reported project units result := by
      rw [runSwitchedOn_eq distinct acyclic limit switches unseen] at ended
      simp only at ended
      split at ended
      · cases ended
        exact ⟨_, fun id => CheckResult.check_skipped id .failFast, rfl⟩
      · split at ended
        · cases ended
        · cases ended
          exact ⟨_, check_resultOf _, rfl⟩
    obtain ⟨result, own, e⟩ := results
    rw [e, map_check_reported fun i _ _ => own i.id]

/-- **No check is lost, and none comes up twice**: neither between two things that a schedule does, nor in the summary of
a run, whatever order the checks finished in. -/
theorem each_check_reported_once (w : Workers σ) (limit : SlotLimit) :
    (∀ (units : List BoundCheck) (graph : DependencyGraph), (units.map (·.id)).Nodup →
      DependencyGraph.ofAcyclic units = .ok graph → ∀ (a : Assignment) (seen : List Event) (start : σ),
        let first := initial graph (.ofLimit limit) seen
        (∀ t, Reachable w a first start t →
          (t.pending ++ t.running ++ t.finished).Nodup ∧ (t.pending ++ t.running ++ t.finished).Perm graph.order ∧
            t.results.map (·.check) = t.finished) ∧
          Reachable w a first start (first.loop w a start).state) ∧
    ∀ (g : Registry) (project : Project) (config : Configuration) (names : List String) (switches : RunSwitches)
      (world : σ) (summary : RunSummary), ((g.workingSet config names).map (·.id)).Nodup →
      (runNamed w g limit project config names switches world).outcome = .ok summary →
        let requested := g.select config names
        let along := WorkingSet.bringAlong g config (requested.map (·.id)) requested
        let on := fun i : BoundCheck => decide (i.id ∉ WorkingSet.offIds (g.switchedOff config names))
        summary.results.map (·.check) = (requested.filter on ++ along.filter on).map (·.id) ∧
          (summary.results.map (·.check)).Nodup := by
  refine ⟨fun units graph distinct accepted a seen start => ?_,
    fun g project config names switches world summary distinct ended => ?_⟩
  · obtain ⟨rfl, _⟩ := (DependencyGraph.ofAcyclic_eq_ok_iff distinct).mp accepted
    have h := consistent_initial (DependencyGraph.proper_ofUnits distinct).distinct limit seen
    exact ⟨fun t reachable => reachable.census h, reachable_loop .here⟩
  · intro requested along on
    have order : (requested.filter on ++ along.filter on).map (·.id) = (g.switchedOn config names).map (·.id) := by
      rw [← List.filter_append]
      rfl
    have distinct' : ((g.switchedOn config names).map (·.id)).Nodup := distinct.sublist (List.filter_sublist.map _)
    have same : summary.results.map (·.check) = (g.switchedOn config names).map (·.id) := by
      rw [runNamed_eq] at ended
      simp only at ended
      split at ended
      · rename_i none
        cases ended
        rw [List.isEmpty_iff.mp none]
        rfl
      · exact checks_of_runSwitchedOn distinct' (started_not_mem_switchedOffEvents _) ended
    exact ⟨same.trans order.symm, same ▸ distinct'⟩

/-- In the sample gate the tests and the documentation were asked for, and the audit; linting, typing and formatting came
along. -/
theorem sampleGate_complete :
    (∀ t, Reachable (.replay SampleGate.outcome) ⟨SampleGate.scheduled, true, true⟩
        (initial SampleGate.graph (.ofLimit ⟨2, by decide⟩) []) (SampleGate.batches true) t →
      (t.pending ++ t.running ++ t.finished).Perm SampleGate.graph.order) ∧
    ∃ summary, (runNamed (.replay SampleGate.outcome) SampleGate.registry ⟨2, by decide⟩ default .default
      SampleGate.names ⟨true, true⟩ (SampleGate.batches true)).outcome = .ok summary ∧
      summary.results.map (·.check.name) = ["tests", "docs", "audit", "lint", "types", "format"] := by
  obtain ⟨schedule, run⟩ := each_check_reported_once (.replay SampleGate.outcome) ⟨2, by decide⟩
  obtain ⟨_, _, _, ended⟩ := runNamed_account SampleGate.stable SampleGate.acyclic ⟨2, by decide⟩ ⟨true, true⟩
    (SampleGate.diligent true) (SampleGate.faithful true)
  obtain ⟨same, _⟩ := run _ _ _ _ _ _ _ (by decide +kernel) ended
  refine ⟨fun t reachable => ?_, _, ended, ?_⟩
  · have distinct : (SampleGate.scheduled.map (·.id)).Nodup := SampleGate.stable.nodup_scheduled default SampleGate.names
    exact ((schedule _ _ distinct SampleGate.accepted _ _ _).1 t reachable).2.1
  · have names := congrArg (List.map CheckId.name) same
    rw [List.map_map] at names
    exact names.trans (by decide +kernel)

end GateRunner
