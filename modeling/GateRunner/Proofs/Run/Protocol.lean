import GateRunner.Proofs.Run.Sight

/-!
# The protocol of a run

Whoever watches a run hears of everything in an order that can be relied on. First come the checks that are switched off,
then those that do not apply, each with its result; then, if anything is left, how many checks are scheduled and which;
and then the schedule. There a check that starts finishes later, a check that does not start is skipped, and each
finishes once, so a display that counts completions comes to the number that was announced.

**The law** (`run_follows_protocol`): so it is for every run that ends with a summary, if the checks that are on are
distinct. What finishes is what the summary reports, in another order. Workers need not answer for this, nor answer in
any order.
-/

namespace GateRunner

open scoped List

/-- What is seen of a schedule keeps to the protocol: it is about these checks, and each comes to one end. -/
structure KeepsProtocol (ids : List CheckId) (seen : List Event) : Prop where
  kinds : ∀ event ∈ seen, (∃ id, event = .started id) ∨ ∃ r, event = .finished r
  /-- Each check finishes, and none twice. -/
  finished : (seen.filterMap Event.finished?).map (·.check) ~ ids
  /-- No check starts twice. -/
  once : (seen.filterMap Event.started?).Nodup
  listed : ∀ id, .started id ∈ seen → id ∈ ids
  /-- What starts has not finished before, and finishes afterwards. -/
  bracketed : ∀ early id late, seen = early ++ .started id :: late →
    (∀ r, .finished r ∈ early → r.check ≠ id) ∧ ∃ r, .finished r ∈ late ∧ r.check = id
  /-- What finishes without a start is skipped. -/
  skipped : ∀ r, .finished r ∈ seen → .started r.check ∉ seen → r.verdict = .skipped

open ScheduleState

variable {σ : Type} {w : Workers σ} {g : Registry} {limit : SlotLimit} {project : Project} {config : Configuration}
  {names : List String} {switches : RunSwitches} {world : σ}

/-- At its end the schedule of distinct checks has kept to the protocol. -/
theorem ScheduleState.Tally.keepsProtocol {graph : DependencyGraph} {given : Completion → Prop} {before seen : List Event}
    {s : ScheduleState} (tally : Tally graph limit given before seen s) (distinct : graph.order.Nodup)
    (none : s.pending = []) (idle : s.running = []) : KeepsProtocol graph.order seen where
  kinds := tally.kinds
  finished := tally.results ▸ tally.finished_perm_order none idle distinct
  once := tally.nodup_starts distinct
  listed _ started := tally.mem_order started
  bracketed _ _ _ split := tally.finished_after_start none idle split
  skipped r finished unseen := by
    rcases tally.sources r (tally.finished_mem_iff.mp finished) with ⟨started, _⟩ | ⟨_, verdict⟩
    · exact absurd started unseen
    · exact verdict

theorem pendingEvents_ofUnits (units : List BoundCheck) :
    pendingEvents (.ofUnits units) = [.total (units.map (·.id)).length, .pending (units.map (·.id))] := by
  rw [pendingEvents, DependencyGraph.order_ofUnits, DependencyGraph.size, DependencyGraph.ofUnits, List.length_map,
    List.length_map]

theorem asideEvents_eq : g.asideEvents project config names =
    (g.switchedOff config names).map (fun off => .switchedOff off.id off.reason) ++
    ((g.switchedOn config names).filter fun i => !i.check.applies project).flatMap (fun i =>
      let r := WorkingSet.notApplicableResult project i
      [.notApplicable r, .finished r]) := by
  rw [Registry.asideEvents, notApplicableEvents, Registry.notApplicable, WorkingSet.splitApplicable, List.flatMap_map]
  rfl

/-- **A run keeps to the protocol.** What is seen of it are the checks that are switched off, the results of those that
do not apply, the announcement of the others, and their schedule; and what has finished is what the summary reports. -/
theorem run_follows_protocol (distinct : ((g.switchedOn config names).map (·.id)).Nodup) {summary : RunSummary}
    (ended : (runNamed w g limit project config names switches world).outcome = .ok summary) :
    let on := g.switchedOn config names
    let ids := (on.filter fun i => i.check.applies project).map (·.id)
    let trace := (runNamed w g limit project config names switches world).trace
    ∃ tail, trace =
        (g.switchedOff config names).map (fun off => .switchedOff off.id off.reason) ++
        (on.filter fun i => !i.check.applies project).flatMap (fun i =>
          let r := WorkingSet.notApplicableResult project i
          [.notApplicable r, .finished r]) ++
        (if ids = [] then [] else [.total ids.length, .pending ids]) ++ tail ∧
      KeepsProtocol ids tail ∧ trace.filterMap Event.finished? ~ summary.results := by
  intro on ids trace
  obtain ⟨announced, _, _, tail, last, sight⟩ := exists_sight w g limit project config names switches world
  obtain ⟨announcement, none, idle, results⟩ := sight.ended summary ended
  have order : (g.scheduledGraph project config names).order = ids := order_scheduledGraph
  have distinct' : (g.scheduledGraph project config names).order.Nodup := order ▸ distinct.sublist (List.filter_sublist.map _)
  have protocol := sight.tally.keepsProtocol distinct' none idle
  rw [order] at protocol
  refine ⟨tail, ?_, protocol, ?_⟩
  · have announced : announced = if ids = [] then [] else [.total ids.length, .pending ids] := by
      rw [announcement, Registry.scheduledGraph, pendingEvents_ofUnits]
      exact if_congr List.map_eq_nil_iff.symm rfl rfl
    rw [show trace = _ from sight.trace, asideEvents_eq, announced]
  · have checks : (g.notApplicable project config names ++ last.results).map (·.check) ~ on.map (·.id) := by
      have executed := order ▸ sight.tally.finished_perm_order none idle distinct'
      rw [List.map_append, map_check_notApplicable]
      refine (executed.append_left _).trans (List.perm_append_comm.trans ?_)
      rw [← List.map_append]
      exact (List.filter_append_perm _ _).map _
    rw [show trace.filterMap Event.finished? = _ from sight.finished?, results]
    refine (orderedResults_perm (checks.nodup_iff.mpr distinct) fun r hr => ?_).symm
    exact checks.subset (List.mem_map_of_mem hr)

/-- The run of the sample gate: the audit does not apply, and the five other checks are announced. -/
theorem sampleGate_follows_protocol :
    let report := runNamed (.replay SampleGate.outcome) SampleGate.registry ⟨2, by decide⟩ default .default
      SampleGate.names ⟨true, false⟩ (SampleGate.batches true)
    let audit := (CheckResult.skipped ⟨"python", "audit"⟩ .notApplicable).withOutput Check.defaultWhyNot
    let ids : List CheckId := ["tests", "docs", "lint", "types", "format"].map (⟨"python", ·⟩)
    ∃ summary tail, report.outcome = .ok summary ∧
      report.trace = [.notApplicable audit, .finished audit, .total 5, .pending ids] ++ tail ∧
      KeepsProtocol ids tail ∧ report.trace.filterMap Event.finished? ~ summary.results := by
  intro report audit ids
  obtain ⟨_, _, _, ended⟩ := runNamed_account SampleGate.stable SampleGate.acyclic ⟨2, by decide⟩ ⟨true, false⟩
    (SampleGate.diligent true) (SampleGate.faithful true)
  obtain ⟨tail, trace, protocol, reported⟩ :=
    run_follows_protocol (SampleGate.stable.nodup_switchedOn SampleGate.names) ended
  have listed : ((SampleGate.registry.switchedOn .default SampleGate.names).filter fun i => i.check.applies default).map
      (·.id) = ids := by decide +kernel
  have aside : SampleGate.registry.asideEvents default .default SampleGate.names =
      [.notApplicable audit, .finished audit] := by decide +kernel
  rw [listed] at protocol trace
  rw [← asideEvents_eq, aside] at trace
  exact ⟨_, tail, ended, trace, protocol, reported⟩

end GateRunner
