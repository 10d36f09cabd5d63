import GateRunner.Proofs.Run.Report
import GateRunner.Proofs.WorkingSet.Dependence

/-!
# When a run fails

A run fails for a circle of dependencies among the checks to be scheduled, and for nothing else. A circle is found
before the schedule begins: by then the workers have only heard of what is switched off and of what does not apply, and
they have neither been handed a check nor been asked to wait. Without a circle every turn leaves less to do, so the turns
come to an end with nothing left or with a failure that stops the run, and the loop never breaks off with checks pending.

**The law** (`fails_exactly_on_circles`): so it is for all workers that answer, whatever they answer, and for all names,
configurations, projects, switches and slots.
-/

namespace GateRunner

open ScheduleState

variable {σ : Type} {w : Workers σ}

/-! ## A circle -/

/-- Among what is set aside, no schedule is announced and nothing starts. -/
theorem not_mem_set_aside (off : List WorkingSet.SwitchedOff) (skipped : List CheckResult) :
    ∀ n ids id, .total n ∉ switchedOffEvents off ++ notApplicableEvents skipped ∧
      .pending ids ∉ switchedOffEvents off ++ notApplicableEvents skipped ∧
      .started id ∉ switchedOffEvents off ++ notApplicableEvents skipped := by
  have aside : ∀ event ∈ switchedOffEvents off ++ notApplicableEvents skipped,
      (∃ id reason, event = .switchedOff id reason) ∨ ∃ r, event = .notApplicable r ∨ event = .finished r := by
    intro event mem
    rcases List.mem_append.mp mem with mem | mem
    · obtain ⟨d, _, rfl⟩ := List.mem_map.mp mem
      exact .inl ⟨d.id, d.reason, rfl⟩
    · obtain ⟨r, _, mem⟩ := List.mem_flatMap.mp mem
      exact .inr ⟨r, by simpa only [List.mem_cons, List.not_mem_nil, or_false] using mem⟩
  intro n ids id
  refine ⟨fun mem => ?_, fun mem => ?_, fun mem => ?_⟩
  all_goals
    rcases aside _ mem with ⟨_, _, e⟩ | ⟨_, e | e⟩
    all_goals cases e

/-- Checks with a circle get no graph, and it is said which they are. -/
theorem ofAcyclic_of_circle {units : List BoundCheck} (distinct : (units.map (·.id)).Nodup)
    (circle : WorkingSet.HasCircle units) : ∃ checks, DependencyGraph.ofAcyclic units = .error (.circle checks) := by
  cases built : DependencyGraph.ofAcyclic units with
  | error e =>
    obtain ⟨checks, rfl, _⟩ := DependencyGraph.ofAcyclic_eq_error distinct built
    exact ⟨checks, rfl⟩
  | ok graph =>
    obtain ⟨rfl, acyclic⟩ := (DependencyGraph.ofAcyclic_eq_ok_iff distinct).mp built
    exact absurd circle ((WorkingSet.acyclic_ofUnits_iff distinct).mp acyclic)

variable {g : Registry} {project : Project} {config : Configuration} {names : List String}

/-- **With a circle among the checks to be scheduled, a run says so and does nothing else.** -/
theorem runNamed_of_circle (stable : g.IdStable) (circle : WorkingSet.HasCircle (g.scheduled project config names))
    (limit : SlotLimit) (switches : RunSwitches) (world : σ) :
    ∃ checks skipped,
      let seen := switchedOffEvents (g.switchedOff config names) ++ notApplicableEvents skipped
      runNamed w g limit project config names switches world =
        ⟨.error (.circle checks), seen, seen.foldl w.observe world⟩ := by
  obtain ⟨checks, refused⟩ := ofAcyclic_of_circle (stable.nodup_scheduled project names) circle
  have some : ¬ (g.switchedOn config names).isEmpty = true := by
    intro none
    obtain ⟨id, far⟩ := circle
    obtain ⟨_, ⟨⟨i, hi, _⟩, _⟩, _⟩ := Relation.TransGen.head'_iff.mp far
    rw [Registry.scheduled, List.isEmpty_iff.mp none] at hi
    exact List.not_mem_nil hi
  refine ⟨checks, (WorkingSet.splitApplicable project (g.switchedOn config names)).2, ?_⟩
  rw [runNamed_eq]
  simp only [if_neg some, runSwitchedOn_of_refused refused, List.foldl_append]

/-! ## No circle -/

/-- The schedule of checks without a circle takes turns that each leave less to do, until they are over. -/
theorem turns_of_acyclic {units : List BoundCheck} (distinct : (units.map (·.id)).Nodup)
    (acyclic : (DependencyGraph.ofUnits units).Acyclic) (limit : SlotLimit) (a : Assignment) (seen : List Event)
    (start : σ) (responsive : Responsive w a (initial (.ofUnits units) (.ofLimit limit) seen) start) :
    let first := initial (.ofUnits units) (.ofLimit limit) seen
    (∀ s now, Turns w a first start s now → s.isOver = false → (s.turn w a now).1.remaining < s.remaining) ∧
      (∃ last now, Turns w a first start last now ∧ last.isOver = true ∧ first.loop w a start = last.close w a now) ∧
      (first.loop w a start).fault = none := by
  intro first
  have proper := DependencyGraph.proper_ofUnits distinct
  have h : first.Consistent := consistent_initial proper.distinct limit seen
  refine ⟨fun s now turns going => ?_, ?_, ?_⟩
  · exact turns.turn_progress responsive h proper.mem_order_of_dependsOn acyclic going
  · exact Turns.here.exists_last responsive h proper.mem_order_of_dependsOn acyclic
  · exact loop_fault_eq_none responsive h proper.mem_order_of_dependsOn acyclic

/-- **Without a circle among the checks to be scheduled, a run ends with a summary.** -/
theorem exists_summary_of_acyclic (stable : g.IdStable)
    (acyclic : (DependencyGraph.ofUnits (g.scheduled project config names)).Acyclic) (limit : SlotLimit)
    (switches : RunSwitches) {world : σ} (diligent : w.Diligent (g.jobs project config names switches.fixFirst) world) :
    ∃ summary, (runNamed w g limit project config names switches world).outcome = .ok summary := by
  have distinct : ((WorkingSet.splitApplicable project (g.switchedOn config names)).1.map (·.id)).Nodup :=
    stable.nodup_scheduled project names
  rw [runNamed_eq]
  simp only
  split
  · exact ⟨_, rfl⟩
  · rw [runSwitchedOn_eq (stable.nodup_switchedOn names) acyclic limit switches (started_not_mem_switchedOffEvents _)]
    simp only
    split
    · exact ⟨_, rfl⟩
    · let a : Assignment :=
        ⟨(WorkingSet.splitApplicable project (g.switchedOn config names)).1, switches.fixFirst, switches.failFast⟩
      have diligent' : w.Diligent a.jobs world := diligent
      have responsive := fun seen heard => @Workers.Diligent.responsive _ w a world _ _ limit seen
        (exists_unit_of_mem_order a) (Workers.History.here.foldl_observe heard) diligent'
      simp only [← List.foldl_append]
      rw [(turns_of_acyclic distinct acyclic limit a _ _ (responsive _ _)).2.2]
      exact ⟨_, rfl⟩

/-- **A run fails exactly on circles, and never stalls.** With a circle among the checks to be scheduled the run says so,
no schedule is announced and nothing starts, and the workers have done nothing but hear of what was seen. Without one
the run ends with a summary: each turn leaves less to do, until the turns are over. -/
theorem fails_exactly_on_circles (stable : g.IdStable) (limit : SlotLimit) (switches : RunSwitches) {world : σ}
    (diligent : w.Diligent (g.jobs project config names switches.fixFirst) world) :
    let units := g.scheduled project config names
    let report := runNamed w g limit project config names switches world
    (WorkingSet.HasCircle units →
      (∃ checks, report.outcome = .error (.circle checks)) ∧
      (∀ n ids id, .total n ∉ report.trace ∧ .pending ids ∉ report.trace ∧ .started id ∉ report.trace) ∧
      report.world = report.trace.foldl w.observe world) ∧
    (¬ WorkingSet.HasCircle units →
      (∃ summary, report.outcome = .ok summary) ∧
      ∀ seen start, w.History world [] [] [] start →
        let a : Assignment := ⟨units, switches.fixFirst, switches.failFast⟩
        let first := initial (.ofUnits units) (.ofLimit limit) seen
        (∀ s now, Turns w a first start s now → s.isOver = false → (s.turn w a now).1.remaining < s.remaining) ∧
        (∃ last now, Turns w a first start last now ∧ last.isOver = true ∧
          first.loop w a start = last.close w a now) ∧
        (first.loop w a start).fault = none) ∧
    ∀ checks, report.outcome ≠ .error (.stalled checks) := by
  intro units report
  have distinct : (units.map (·.id)).Nodup := stable.nodup_scheduled project names
  have ended : ¬ WorkingSet.HasCircle units → ∃ summary, report.outcome = .ok summary := fun none =>
    exists_summary_of_acyclic stable ((WorkingSet.acyclic_ofUnits_iff distinct).mpr none) limit switches diligent
  refine ⟨fun circle => ?_, fun none => ⟨ended none, fun seen start history => ?_⟩, fun checks stalled => ?_⟩
  · obtain ⟨checks, skipped, same⟩ := runNamed_of_circle (w := w) stable circle limit switches world
    rw [show report = _ from same]
    exact ⟨⟨checks, rfl⟩, not_mem_set_aside _ _, rfl⟩
  · let a : Assignment := ⟨units, switches.fixFirst, switches.failFast⟩
    have diligent' : w.Diligent a.jobs world := diligent
    exact turns_of_acyclic distinct ((WorkingSet.acyclic_ofUnits_iff distinct).mpr none) limit a seen start
      (diligent'.responsive (exists_unit_of_mem_order a) history)
  · by_cases circle : WorkingSet.HasCircle units
    · obtain ⟨found, skipped, same⟩ := runNamed_of_circle (w := w) stable circle limit switches world
      rw [show report = _ from same] at stalled
      cases stalled
    · obtain ⟨summary, ok⟩ := ended circle
      rw [ok] at stalled
      cases stalled

namespace SampleGate

/-- Formatting and linting that wait for each other. -/
def circular : Registry := .ofScripts [script "format" ["lint"] true, script "lint" ["format"] true]

theorem circular_stable : circular.IdStable := Registry.idStable_ofScripts _

theorem circular_hasCircle : WorkingSet.HasCircle (circular.scheduled default .default ["python:lint"]) := by
  have distinct : ((circular.scheduled default .default ["python:lint"]).map (·.id)).Nodup :=
    circular_stable.nodup_scheduled default ["python:lint"]
  refine ⟨⟨"python", "lint"⟩, .tail (b := ⟨"python", "format"⟩) (.single ?_) ?_⟩
  all_goals
    refine (WorkingSet.dependsOn_ofUnits_iff distinct).mp ?_
    show _ ∈ DependencyGraph.dependencies _ _
    decide +kernel

end SampleGate

/-- The sample gate ends with a summary; the two checks that wait for each other never start. -/
theorem sampleGate_ends :
    (∃ summary, (runNamed (.replay SampleGate.outcome) SampleGate.registry ⟨2, by decide⟩ default .default
      SampleGate.names ⟨true, true⟩ (SampleGate.batches true)).outcome = .ok summary) ∧
    let report := runNamed (.replay SampleGate.outcome) SampleGate.circular ⟨1, by decide⟩ default .default
      ["python:lint"] ⟨true, false⟩ []
    (∃ checks, report.outcome = .error (.circle checks)) ∧ ∀ id, .started id ∉ report.trace := by
  have none := (WorkingSet.acyclic_ofUnits_iff (SampleGate.stable.nodup_scheduled default SampleGate.names)).mp
    SampleGate.acyclic
  have sample := @fails_exactly_on_circles _ (.replay SampleGate.outcome) SampleGate.registry default .default
    SampleGate.names SampleGate.stable ⟨2, by decide⟩ ⟨true, true⟩ (SampleGate.batches true) (SampleGate.diligent true)
  have circular := @fails_exactly_on_circles _ (.replay SampleGate.outcome) SampleGate.circular default .default
    ["python:lint"] SampleGate.circular_stable ⟨1, by decide⟩ ⟨true, false⟩ [] Workers.diligent_replay
  obtain ⟨refused, quiet, _⟩ := circular.1 SampleGate.circular_hasCircle
  exact ⟨(sample.2.1 none).1, refused, fun id => (quiet 0 [] id).2.2⟩

end GateRunner
