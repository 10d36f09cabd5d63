import GateRunner.Proofs.Run.Report

/-!
# What fail-fast changes, and what it does not

Fail-fast stops a run at the first failure that is heard of. Which checks are cut off by that depends on the schedule;
two things do not. A run that is stopped has a failure on record, and that check fails without fail-fast too, so the
verdict on the whole is the same (`succeeded_independent_of_failFast`). And what was started before the stop counts:
each started check has the result that it has in a full run, and so has everything it depends on.

**The law** (`failFast_truncates`): a run under fail-fast is a full run with checks left out. Where no started check
fails, nothing is left out.
-/

namespace GateRunner

namespace RunSummary

/-- A run succeeded when no result blocks. -/
theorem succeeded_ofResults_iff {results : List CheckResult} {duration : Duration} :
    (ofResults results duration).succeeded = true ↔ ∀ r ∈ results, r.verdict.isBlocking = false := by
  simp only [succeeded, ofResults, Bool.and_eq_true, decide_eq_true_eq, List.countP_eq_zero, Verdict.isBlocking,
    Bool.or_eq_false_iff, decide_eq_false_iff_not]
  exact ⟨fun h r hr => ⟨h.1 r hr, h.2 r hr⟩, fun h => ⟨fun r hr => (h r hr).1, fun r hr => (h r hr).2⟩⟩

end RunSummary

variable {outcome : CheckId → CheckResult}

/-- A failure blocks. -/
theorem CheckResult.isBlocking_of_isFailed {r : CheckResult} (failed : r.isFailed = true) :
    r.verdict.isBlocking = true := by
  rw [Verdict.isBlocking, of_decide_eq_true failed]
  rfl

/-- **Something blocks exactly when something is expected to**, whether the run was stopped or not. What stopped it
blocks, and is expected to fail. -/
theorem Account.blocked_iff {graph : DependencyGraph} {acyclic : graph.Acyclic} {failFast : Bool} {trace : List Event}
    {result : CheckId → CheckResult} (account : Account acyclic outcome failFast trace result) :
    (∃ id ∈ graph.order, (result id).verdict.isBlocking = true) ↔
      ∃ id ∈ graph.order, (graph.expected acyclic outcome id).verdict.isBlocking = true := by
  rcases account.whole with whole | ⟨_, id, seen, failed⟩
  · constructor
    · rintro ⟨id, hid, blocks⟩
      exact ⟨id, hid, whole id hid ▸ blocks⟩
    · rintro ⟨id, hid, blocks⟩
      exact ⟨id, hid, (whole id hid).symm ▸ blocks⟩
  · -- the failure that stopped the run is expected, so both sides hold
    obtain ⟨hid, same⟩ := account.started id seen
    have blocks := CheckResult.isBlocking_of_isFailed failed
    exact ⟨fun _ => ⟨id, hid, same ▸ blocks⟩, fun _ => ⟨id, hid, blocks⟩⟩

variable {g : Registry} {project : Project} {config : Configuration} {names : List String}

/-- The verdict on a run is that on the checks that it schedules: what does not apply blocks nothing. -/
theorem succeeded_reported_iff {result : CheckId → CheckResult} {duration : Duration} :
    (RunSummary.ofResults (reported project (g.switchedOn config names) result) duration).succeeded = true ↔
      ¬ ∃ id ∈ (DependencyGraph.ofUnits (g.scheduled project config names)).order,
        (result id).verdict.isBlocking = true := by
  rw [RunSummary.succeeded_ofResults_iff, DependencyGraph.order_ofUnits]
  constructor
  · rintro clear ⟨id, hid, blocks⟩
    obtain ⟨i, hi, rfl⟩ := List.mem_map.mp hid
    obtain ⟨on, applies⟩ := Registry.mem_scheduled.mp hi
    have := clear (result i.id) (List.mem_map.mpr ⟨i, on, if_pos applies⟩)
    rw [blocks] at this
    cases this
  · intro clear r hr
    obtain ⟨i, on, rfl⟩ := List.mem_map.mp hr
    split
    · refine Bool.eq_false_iff.mpr fun blocks => clear ⟨i.id, List.mem_map.mpr ⟨i, ?_, rfl⟩, blocks⟩
      exact Registry.mem_scheduled.mpr ⟨on, ‹_›⟩
    · rfl

/-- **The verdict does not depend on fail-fast**, nor on slots or on the schedule. -/
theorem succeeded_independent_of_failFast (stable : g.IdStable)
    (acyclic : (DependencyGraph.ofUnits (g.scheduled project config names)).Acyclic) {σ τ : Type} {w : Workers σ}
    {w' : Workers τ} (limit limit' : SlotLimit) (fixFirst fixFirst' : Bool) {world : σ} {world' : τ}
    (diligent : w.Diligent (g.jobs project config names fixFirst) world)
    (diligent' : w'.Diligent (g.jobs project config names fixFirst') world')
    (faithful : w.Faithful (g.jobs project config names fixFirst) world outcome)
    (faithful' : w'.Faithful (g.jobs project config names fixFirst') world' outcome) :
    ∃ cut full : RunSummary,
      (runNamed w g limit project config names ⟨fixFirst, true⟩ world).outcome = .ok cut ∧
      (runNamed w' g limit' project config names ⟨fixFirst', false⟩ world').outcome = .ok full ∧
      cut.succeeded = full.succeeded := by
  obtain ⟨result, account, _, ended⟩ := runNamed_account stable acyclic limit ⟨fixFirst, true⟩ diligent faithful
  obtain ⟨result', account', _, ended'⟩ :=
    runNamed_account stable acyclic limit' ⟨fixFirst', false⟩ diligent' faithful'
  refine ⟨_, _, ended, ended', Bool.eq_iff_iff.mpr ?_⟩
  rw [succeeded_reported_iff, succeeded_reported_iff, account.blocked_iff, account'.blocked_iff]

/-- With linting out of order the sample gate is not met, stopped or not. -/
theorem sampleGate_verdict :
    ∃ cut full : RunSummary,
      (runNamed (.replay SampleGate.outcome) SampleGate.registry ⟨2, by decide⟩ default .default SampleGate.names
        ⟨true, true⟩ (SampleGate.batches true)).outcome = .ok cut ∧
      (runNamed (.replay SampleGate.outcome) SampleGate.registry ⟨1, by decide⟩ default .default SampleGate.names
        ⟨true, false⟩ (SampleGate.batches false)).outcome = .ok full ∧
      cut.succeeded = full.succeeded :=
  succeeded_independent_of_failFast SampleGate.stable SampleGate.acyclic _ _ _ _ (SampleGate.diligent true)
    (SampleGate.diligent false) (SampleGate.faithful true) (SampleGate.faithful false)

/-- **Fail-fast only leaves checks out.** A check that was started is on record with the result of the full run, also if
it was in flight when the run stopped; what it depends on was started and passed; a check that was not started is on
record as skipped; and if no started check failed, all results are those of the full run. -/
theorem failFast_truncates (stable : g.IdStable)
    (acyclic : (DependencyGraph.ofUnits (g.scheduled project config names)).Acyclic) {σ τ : Type} {w : Workers σ}
    {w' : Workers τ} (limit limit' : SlotLimit) (fixFirst fixFirst' : Bool) {world : σ} {world' : τ}
    (diligent : w.Diligent (g.jobs project config names fixFirst) world)
    (diligent' : w'.Diligent (g.jobs project config names fixFirst') world')
    (faithful : w.Faithful (g.jobs project config names fixFirst) world outcome)
    (faithful' : w'.Faithful (g.jobs project config names fixFirst') world' outcome) :
    let short := runNamed w g limit project config names ⟨fixFirst, true⟩ world
    let whole := runNamed w' g limit' project config names ⟨fixFirst', false⟩ world'
    ∃ cut full : RunSummary, short.outcome = .ok cut ∧ whole.outcome = .ok full ∧
      (∀ id, .started id ∈ short.trace → ∃ r, cut.result? id = some r ∧ full.result? id = some r) ∧
      (∀ id, .started id ∈ short.trace →
        ∀ d, (DependencyGraph.ofUnits (g.scheduled project config names)).DependsOn id d →
          .started d ∈ short.trace ∧ ∃ r, cut.result? d = some r ∧ r.isPassed = true) ∧
      (∀ i ∈ g.scheduled project config names, .started i.id ∉ short.trace →
        ∃ reason r, cut.result? i.id = some r ∧ r = .skipped i.id reason ∧ r.verdict = .skipped) ∧
      ((∀ id, .started id ∈ short.trace → ∀ r, cut.result? id = some r → r.isFailed = false) →
        cut.results = full.results) := by
  intro short whole
  obtain ⟨result, account, _, ended⟩ := runNamed_account stable acyclic limit ⟨fixFirst, true⟩ diligent faithful
  obtain ⟨result', account', _, ended'⟩ :=
    runNamed_account stable acyclic limit' ⟨fixFirst', false⟩ diligent' faithful'
  have all' := account'.whole.resolve_right fun stopped => Bool.noConfusion stopped.1
  refine ⟨_, _, ended, ended', ?_, ?_, ?_, ?_⟩
  · intro id seen
    obtain ⟨hid, same⟩ := account.started id seen
    refine ⟨result id, account.result?_eq stable _ hid, ?_⟩
    rw [account'.result?_eq stable _ hid, all' id hid, same]
  · intro id seen d dep
    obtain ⟨started, passed⟩ := account.founded id seen d dep
    exact ⟨started, result d, account.result?_eq stable _ (account.started d started).1, passed⟩
  · intro i hi unseen
    have hid := mem_order_of_scheduled hi
    obtain ⟨reason, skipped, verdict⟩ := account.left i.id hid unseen
    exact ⟨reason, result i.id, account.result?_eq stable _ hid, skipped, skipped ▸ verdict⟩
  · intro clear
    have all := account.whole.resolve_right (by
      rintro ⟨_, id, seen, failed⟩
      have passes := clear id seen (result id) (account.result?_eq stable _ (account.started id seen).1)
      rw [failed] at passes
      cases passes)
    apply reported_congr
    intro i hi
    rw [all i.id (mem_order_of_scheduled hi), all' i.id (mem_order_of_scheduled hi)]

/-- The sample gate stops when linting fails. By then the types are being checked; the tests and the documentation are
left. -/
theorem sampleGate_truncated :
    let short := runNamed (.replay SampleGate.outcome) SampleGate.registry ⟨2, by decide⟩ default .default
      SampleGate.names ⟨true, true⟩ (SampleGate.batches true)
    let whole := runNamed (.replay SampleGate.outcome) SampleGate.registry ⟨1, by decide⟩ default .default
      SampleGate.names ⟨true, false⟩ (SampleGate.batches false)
    short.trace.filterMap Event.started? = [⟨"python", "format"⟩, ⟨"python", "lint"⟩, ⟨"python", "types"⟩] ∧
    ∃ cut full : RunSummary, short.outcome = .ok cut ∧ whole.outcome = .ok full ∧
      (∀ id, .started id ∈ short.trace → ∃ r, cut.result? id = some r ∧ full.result? id = some r) ∧
      (∀ id, .started id ∈ short.trace → ∀ d, SampleGate.graph.DependsOn id d →
        .started d ∈ short.trace ∧ ∃ r, cut.result? d = some r ∧ r.isPassed = true) ∧
      (∀ i ∈ SampleGate.scheduled, .started i.id ∉ short.trace →
        ∃ reason r, cut.result? i.id = some r ∧ r = .skipped i.id reason ∧ r.verdict = .skipped) ∧
      ((∀ id, .started id ∈ short.trace → ∀ r, cut.result? id = some r → r.isFailed = false) →
        cut.results = full.results) :=
  ⟨by decide +kernel, failFast_truncates SampleGate.stable SampleGate.acyclic _ _ _ _ (SampleGate.diligent true)
    (SampleGate.diligent false) (SampleGate.faithful true) (SampleGate.faithful false)⟩

end GateRunner
