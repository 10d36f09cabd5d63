import GateRunner.Proofs.Graph.Emission
import GateRunner.Proofs.Schedule.Loop
import GateRunner.Proofs.Schedule.Replay

/-!
# Nothing starts too early

The scheduler looks at direct dependencies only, once for all pending checks, and before it skips or starts any of them.
That is enough: in a consistent state whatever passed has all it depends on passed too, so a check whose direct
dependencies have passed has everything that it reaches passed (`Consistent.hasPassed_of_reaches`).

**The law** (`started_after_all_reached_passed`): at every start in a run, each check that the started one reaches has
been seen to finish with a pass. And the scheduler never starts a check that it skips, neither before nor after.

It holds for all workers, whatever they answer and in whichever batches, even for workers that do not answer at all.
-/

namespace GateRunner

namespace ScheduleState

/-- Where all that a check depends on has passed, all that it reaches has. -/
theorem Consistent.hasPassed_of_reaches {s : ScheduleState} (h : s.Consistent) {id other : CheckId}
    (direct : ∀ d, s.graph.DependsOn id d → s.HasPassed d) (far : s.graph.Reaches id other) : s.HasPassed other := by
  induction far with
  | single step => exact direct _ step
  | tail _ step ih => exact h.passed _ ih _ step

/-- At every start of a course, what the check reaches has finished with a pass. -/
theorem Course.passed_before_start {failFast : Bool} {s t : ScheduleState} {before after : List Deed} {id : CheckId}
    (course : Course failFast s (before ++ .start id :: after) t) (h : s.Consistent) (fresh : s.results = [])
    {other : CheckId} (far : s.graph.Reaches id other) :
    ∃ r, .finished r ∈ before.map Deed.event ∧ r.check = other ∧ r.isPassed = true := by
  obtain ⟨m, first, rest⟩ := course.split
  have consistent := first.consistent h
  cases rest with
  | cons allowed _ =>
    cases allowed with
    | ready pending going free ready =>
      rw [← first.graph_eq h] at far
      obtain ⟨r, hr, check, passed⟩ :=
        consistent.hasPassed_of_reaches (fun d dep => hasPassed_of_ready consistent.recorded ready dep) far
      rw [first.results_eq h, fresh, List.nil_append] at hr
      obtain ⟨deed, hdeed, e⟩ := List.mem_filterMap.mp hr
      refine ⟨r, List.mem_map.mpr ⟨deed, hdeed, ?_⟩, check, passed⟩
      cases deed with
      | start _ => cases e
      | _ => exact congrArg Event.finished (Option.some.inj e)

/-- **A check starts only after all that it reaches has passed, and what the scheduler skips it never starts.** The run
is a course whose completions come from the workers, and whichever deeds make it up, they are what is seen and recorded.
They tell the two kinds of results apart: one that comes of a skip is the scheduler's own. -/
theorem started_after_all_reached_passed {units : List BoundCheck} {graph : DependencyGraph}
    (distinct : (units.map (·.id)).Nodup) (accepted : DependencyGraph.ofAcyclic units = .ok graph) {σ : Type}
    (w : Workers σ) (a : Assignment) (limit : SlotLimit) (seen : List Event) (world : σ) :
    let first := initial graph (.ofLimit limit) seen
    let last := (first.loop w a world).state
    (∃ deeds, Course a.failFast first deeds last ∧ ∀ c, .complete c ∈ deeds → w.Gives c) ∧
    ∀ deeds, Course a.failFast first deeds last →
      last.trace = seen ++ deeds.map Deed.event ∧ last.results = deeds.filterMap Deed.result? ∧
      (∀ before id after, deeds.map Deed.event = before ++ .started id :: after → ∀ other, graph.Reaches id other →
        ∃ r, .finished r ∈ before ∧ r.check = other ∧ r.isPassed = true) ∧
      ∀ id reason, .skip id reason ∈ deeds → .started id ∉ deeds.map Deed.event := by
  intro first last
  obtain ⟨rfl, _⟩ := (DependencyGraph.ofAcyclic_eq_ok_iff distinct).mp accepted
  have h : first.Consistent := consistent_initial (DependencyGraph.proper_ofUnits distinct).distinct limit seen
  refine ⟨(carried_loop h world).1, fun deeds course => ?_⟩
  refine ⟨course.trace_eq h, course.results_eq h, fun before id after split other far => ?_,
    fun id reason skipped started => ?_⟩
  · obtain ⟨early, rest, rfl, rfl, hrest⟩ := List.map_eq_append_iff.mp split
    obtain ⟨deed, late, rfl, hdeed, _⟩ := List.map_eq_cons_iff.mp hrest
    cases Deed.eq_start_of_event hdeed
    exact course.passed_before_start h rfl far
  · obtain ⟨deed, hdeed, e⟩ := List.mem_map.mp started
    cases Deed.eq_start_of_event e
    exact course.start_not_mem_of_skip h skipped hdeed

/-- So it is in the sample gate, where the failure of linting stops the run. -/
theorem sampleGate_safe :
    let first := initial (.ofUnits SampleGate.units) (.ofLimit ⟨2, by decide⟩) []
    let last := (first.loop (.replay SampleGate.outcome) ⟨SampleGate.units, false, true⟩ (SampleGate.batches true)).state
    (∃ deeds, Course true first deeds last ∧ ∀ c, .complete c ∈ deeds → (Workers.replay SampleGate.outcome).Gives c) ∧
    ∀ deeds, Course true first deeds last →
      last.trace = deeds.map Deed.event ∧ last.results = deeds.filterMap Deed.result? ∧
      (∀ before id after, deeds.map Deed.event = before ++ .started id :: after →
        ∀ other, (DependencyGraph.ofUnits SampleGate.units).Reaches id other →
          ∃ r, .finished r ∈ before ∧ r.check = other ∧ r.isPassed = true) ∧
      ∀ id reason, .skip id reason ∈ deeds → .started id ∉ deeds.map Deed.event :=
  have distinct : (SampleGate.units.map (·.id)).Nodup := by decide
  have accepted : DependencyGraph.ofAcyclic SampleGate.units = .ok (.ofUnits SampleGate.units) := by decide +kernel
  started_after_all_reached_passed distinct accepted (.replay SampleGate.outcome) ⟨SampleGate.units, false, true⟩
    ⟨2, by decide⟩ [] (SampleGate.batches true)

end ScheduleState

end GateRunner
