import GateRunner.Proofs.Check.Written
import GateRunner.Proofs.Run.Comparison

/-!
# Disabling one more gate

A gate on the list of disabled gates takes out of a run the checks that rest on it, and nothing else. The working set
stays as it is, since every gate keeps its settings. A check that still runs has no dependency among those that are
gone, or it would be gone as well; so it sees the same dependencies as before, and comes out the same.

**The law** (`disabling_removes_what_rests_on_it`): the results are those of the run before, in their order, without the
gate and what rests on it.
-/

namespace GateRunner

namespace WorkingSet

open Classical in
/-- Whether a check is left when another one goes with all that rests on it. -/
noncomputable def standsWithout (units : List BoundCheck) (x id : CheckId) : Bool := decide (¬ RestsOn units id x)

variable {units : List BoundCheck} {x : CheckId}

theorem standsWithout_iff {id : CheckId} : standsWithout units x id = true ↔ ¬ RestsOn units id x := by
  simp only [standsWithout, decide_eq_true_eq]

/-- The checks that stand without another one are closed under dependencies. -/
theorem closedPart_standsWithout {on : List BoundCheck} (within : on ⊆ units) :
    ClosedPart (on.filter fun i => standsWithout units x i.id) on where
  subset := List.filter_subset_self _
  closed := by
    intro i hi d hd present
    obtain ⟨hi, stands⟩ := List.mem_filter.mp hi
    obtain ⟨j, hj, rfl⟩ := List.mem_map.mp present
    refine List.mem_map.mpr ⟨j, List.mem_filter.mpr ⟨hj, standsWithout_iff.mpr fun rests => ?_⟩, rfl⟩
    exact standsWithout_iff.mp stands (.head ⟨⟨i, within hi, rfl, hd⟩, j, within hj, rfl⟩ rests)

end WorkingSet

/-! ## What is still on -/

variable {g : Registry} {project : Project} {config config' : Configuration} {names : List String} {x : CheckId}

/-- What is off afterwards was off before, or rests on the gate. -/
theorem mem_offIds_disabling (readable : ∀ i ∈ g.workingSet config names, i.id.Readable) (hx : x.Readable)
    (disabled : config.disabling x = some config') {i : BoundCheck} (hi : i ∈ g.workingSet config names) :
    i.id ∈ WorkingSet.offIds (WorkingSet.splitSwitched config' (g.workingSet config names)).2 ↔
      i.id ∈ WorkingSet.offIds (WorkingSet.splitSwitched config (g.workingSet config names)).2 ∨
        WorkingSet.RestsOn (g.workingSet config names) i.id x := by
  have switches : ∀ root ∈ (g.workingSet config names).map (·.id),
      (config'.SwitchesOff root ↔ config.SwitchesOff root ∨ x = root) := by
    intro root present
    obtain ⟨j, hj, rfl⟩ := List.mem_map.mp present
    rw [Configuration.switchesOff_disabling disabled, CheckId.written_inj hx (readable j hj)]
  rw [WorkingSet.mem_offIds_iff, WorkingSet.mem_offIds_iff]
  constructor
  · rintro ⟨root, present, off, rests⟩
    rcases (switches root present).mp off with off | rfl
    · exact .inl ⟨root, present, off, rests⟩
    · exact .inr rests
  · rintro (⟨root, present, off, rests⟩ | rests)
    · exact ⟨root, present, (switches root present).mpr (.inl off), rests⟩
    · have present := rests.target_mem (List.mem_map.mpr ⟨i, hi, rfl⟩)
      exact ⟨x, present, (switches x present).mpr (.inr rfl), rests⟩

/-- **What is still on is what was on and stands without the gate.** -/
theorem switchedOn_disabling (readable : ∀ i ∈ g.workingSet config names, i.id.Readable) (hx : x.Readable)
    (disabled : config.disabling x = some config') : g.switchedOn config' names =
      (g.switchedOn config names).filter fun i => WorkingSet.standsWithout (g.workingSet config names) x i.id := by
  have same : g.workingSet config' names = g.workingSet config names :=
    Registry.workingSet_congr (Configuration.settingsOf_disabling disabled) names
  rw [Registry.switchedOn_eq_filter, Registry.switchedOn_eq_filter, Registry.switchedOff, Registry.switchedOff, same,
    List.filter_filter]
  refine List.filter_congr fun i hi => Bool.eq_iff_iff.mpr ?_
  rw [Bool.and_eq_true, WorkingSet.standsWithout_iff, decide_eq_true_eq, decide_eq_true_eq,
    mem_offIds_disabling readable hx disabled hi, not_or, and_comm]

/-- Leaving checks out leaves out their results. -/
theorem reported_filter {result : CheckId → CheckResult} (own : ∀ id, (result id).check = id) (keep : CheckId → Bool)
    (units : List BoundCheck) : reported project (units.filter fun i => keep i.id) result =
      (reported project units result).filter fun r => keep r.check := by
  rw [reported, reported, List.filter_map]
  refine congrArg _ (List.filter_congr fun i _ => ?_)
  rw [Function.comp_apply]
  split
  · rw [own]
  · rfl

/-! ## The law -/

/-- **Disabling a gate removes the gate and what rests on it, and changes nothing else.** -/
theorem disabling_removes_what_rests_on_it (stable : g.IdStable) (readable : ∀ r ∈ g.entries, r.id.Readable)
    (hx : x.Readable) (disabled : config.disabling x = some config') {outcome : CheckId → CheckResult} {σ τ : Type}
    {w : Workers σ} {w' : Workers τ} (limit limit' : SlotLimit) (fixFirst fixFirst' : Bool) {world : σ} {world' : τ}
    (diligent : w.Diligent (g.jobs project config names fixFirst) world)
    (diligent' : w'.Diligent (g.jobs project config' names fixFirst') world')
    (faithful : w.Faithful (g.jobs project config names fixFirst) world outcome)
    (faithful' : w'.Faithful (g.jobs project config' names fixFirst') world' outcome) {summary : RunSummary}
    (ended : (runNamed w g limit project config names ⟨fixFirst, false⟩ world).outcome = .ok summary) :
    ∃ summary', (runNamed w' g limit' project config' names ⟨fixFirst', false⟩ world').outcome = .ok summary' ∧
      summary'.results =
        summary.results.filter fun r => WorkingSet.standsWithout (g.workingSet config names) x r.check := by
  have readable' : ∀ i ∈ g.workingSet config names, i.id.Readable := by
    intro i hi
    obtain ⟨r, hr, filed, _⟩ := Registry.exists_entry_of_bind? (stable.bind?_of_mem_workingSet hi)
    exact filed ▸ readable r hr
  have on := switchedOn_disabling readable' hx disabled
  have part : WorkingSet.ClosedPart (g.scheduled project config' names) (g.scheduled project config names) := by
    have still : WorkingSet.ClosedPart (g.switchedOn config' names) (g.switchedOn config names) :=
      on ▸ WorkingSet.closedPart_standsWithout (List.filter_subset_self _)
    exact still.filter (stable.nodup_switchedOn names) _
  obtain ⟨result, summary', own, ended', results, results'⟩ :=
    results_of_part stable part diligent diligent' faithful faithful' ended
  refine ⟨summary', ended', ?_⟩
  rw [results', results, on]
  exact reported_filter own _ _

namespace SampleGate

/-- The document that sets nothing but that types are not checked. -/
def untyped : Configuration := ⟨.obj [("disabled_gates", .arr [.str "python:types"])]⟩

end SampleGate

/-- Without the types the sample gate runs no tests and makes no documentation; all else comes out as before. -/
theorem sampleGate_untyped :
    ∃ summary summary' : RunSummary,
      (runNamed (.replay SampleGate.outcome) SampleGate.registry ⟨2, by decide⟩ default .default SampleGate.names
        ⟨true, false⟩ (SampleGate.batches true)).outcome = .ok summary ∧
      (runNamed (.replay SampleGate.outcome) SampleGate.registry ⟨1, by decide⟩ default SampleGate.untyped
        SampleGate.names ⟨true, false⟩ (SampleGate.batches false)).outcome = .ok summary' ∧
      summary'.results = (summary.results.filter fun r =>
        WorkingSet.standsWithout (SampleGate.registry.workingSet .default SampleGate.names) ⟨"python", "types"⟩ r.check) ∧
      summary'.results.map (·.check.name) = ["audit", "lint", "format"] := by
  have disabled : Configuration.default.disabling ⟨"python", "types"⟩ = some SampleGate.untyped := by rfl
  obtain ⟨summary, ended, _⟩ := exists_summary_expected SampleGate.stable SampleGate.acyclic ⟨2, by decide⟩ true
    (SampleGate.diligent true) (SampleGate.faithful true)
  obtain ⟨summary', ended', same⟩ := disabling_removes_what_rests_on_it SampleGate.stable (by decide +kernel)
    (by decide) disabled ⟨2, by decide⟩ ⟨1, by decide⟩ true true (SampleGate.diligent true)
    (SampleGate.diligent false) (SampleGate.faithful true) (SampleGate.faithful false) ended
  have left : (runNamed (.replay SampleGate.outcome) SampleGate.registry ⟨1, by decide⟩ default SampleGate.untyped
      SampleGate.names ⟨true, false⟩ (SampleGate.batches false)).outcome.toOption.map
        (fun s => s.results.map (·.check.name)) = some ["audit", "lint", "format"] := by decide +kernel
  rw [ended'] at left
  exact ⟨summary, summary', ended, ended', same, Option.some.inj left⟩

end GateRunner
