import GateRunner.Proofs.Run.Invocation

/-!
# What a run reports of remediation and of extents

A worker measures a check and mends the project before it evaluates the check, and all three may go wrong on their own.
What a run reports of a check that has started is what became of the calls into it, and the summary takes it over.

**The law** (`preparation_reported_unless_crashed`): so in a run with remediation, that a check mended the project and
what extent it measured are both in the summary, if its evaluation ended with a result or an error. If the evaluation
crashed, neither is, though the project has been changed.
-/

namespace GateRunner

/-- **What became of the calls into a check is in the summary, except that a crash of the evaluation leaves out what was
known from before it.** This is for each check that has started in a run with remediation that ends with a summary;
remediation has been called if the check offers it. -/
theorem preparation_reported_unless_crashed {σ : Type} {w : Workers σ} {g : Registry} {limit : SlotLimit}
    {project : Project} {config : Configuration} {names : List String} {failFast : Bool} {world : σ}
    (honest : w.Honest project world) {summary : RunSummary}
    (ended : (runNamed w g limit project config names ⟨true, failFast⟩ world).outcome = .ok summary) :
    let report := runNamed w g limit project config names ⟨true, failFast⟩ world
    ∃ invocations journal last,
      report.Invoked g project config names ⟨true, failFast⟩ summary invocations journal last ∧
      ∀ id, .started id ∈ report.trace → ∃ v ∈ invocations, ∃ r, v.unit.id = id ∧ summary.result? id = some r ∧
        (v.unit.check.offersFix = true → ⟨v.unit, .fix, v.begun⟩ ∈ v.calls) ∧
        (v.Mended → (r.fixed = true ↔ ¬ v.Crashed)) ∧
        ∀ extent, v.Measured extent → (∀ own, (v.unit.check.evaluate v.met).1 = .done own → own.extent = none) →
          (r.extent = some extent ↔ ¬ v.Crashed) := by
  intro report
  obtain ⟨invocations, journal, last, invoked⟩ := exists_invoked honest ended
  refine ⟨invocations, journal, last, invoked, fun id started => ?_⟩
  obtain ⟨v, mem, own, recorded⟩ := invoked.recorded id started
  have wanted : v.fixFirst = true := (invoked.scheduled v mem).2
  exact ⟨v, mem, v.result, own, recorded, fun offered => v.fix_mem ⟨wanted, offered⟩, v.fixed_iff,
    fun _ measured none => v.extent_iff measured none⟩

/-- Both checks have mended the project and measured what they examine, but the one that crashed has neither on its
result. -/
theorem crash_loses_preparation :
    SampleGate.mended.world.notes.filterMap (fun n => match n.2 with | .fixing id => some id.name | _ => none) =
      ["format", "lint"] ∧
    SampleGate.mended.outcome.toOption.map (fun s => s.results.map fun r => (r.check.name, r.error, r.fixed, r.extent)) =
      some [("format", some "check panicked: boom", false, none), ("lint", some "no linter", true, some ⟨3, 40⟩)] := by
  decide +kernel

/-- So the law has it of the formatting. -/
theorem sampleGate_mended :
    .started ⟨"python", "format"⟩ ∈ SampleGate.mended.trace ∧ ∃ summary, SampleGate.mended.outcome = .ok summary ∧
      ∃ v : Invocation, ∃ r, v.unit.id = ⟨"python", "format"⟩ ∧ summary.result? ⟨"python", "format"⟩ = some r ∧
        (v.unit.check.offersFix = true → ⟨v.unit, .fix, v.begun⟩ ∈ v.calls) ∧
        (v.Mended → (r.fixed = true ↔ ¬ v.Crashed)) ∧
        ∀ extent, v.Measured extent → (∀ own, (v.unit.check.evaluate v.met).1 = .done own → own.extent = none) →
          (r.extent = some extent ↔ ¬ v.Crashed) := by
  have started : .started ⟨"python", "format"⟩ ∈ SampleGate.mended.trace := by decide +kernel
  obtain ⟨summary, ended⟩ := SampleGate.mended_ok
  obtain ⟨_, _, _, _, reported⟩ := preparation_reported_unless_crashed (Clock.honest default) ended
  obtain ⟨v, _, r, law⟩ := reported _ started
  exact ⟨started, summary, ended, v, r, law⟩

end GateRunner
