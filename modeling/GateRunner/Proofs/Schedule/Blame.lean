import GateRunner.Proofs.Schedule.Stopping

/-!
# What skips name, and where that leads

The scheduler skips a check at two places. In a turn it skips those that a dependency bars, when all dependencies have
finished; after a stop it skips what is left, one check after the other, when some dependencies may be left themselves.
At both places it names the first dependency that has a result by then and did not pass (`Allows.blocker_of_skip`). What
has a result keeps it, so the name is right at the end of the run too; and as long as nothing stops the run, everything
a skipped check depends on had its result when it was skipped, so that no earlier dependency can fail afterwards.

**The law** (`skips_lead_to_their_cause`): a skip names a dependency in the run that did not pass, the first one unless
the run was stopped; and going from each check to the one that its skip names leads to a check that was executed and did
not pass, or, in a run that was stopped, to one that was left for fail-fast. The way is along dependencies, so it comes
to an end because they do.

It holds for all workers.
-/

namespace GateRunner

/-- The skip of one check names another. -/
def Blames (deeds : List Deed) (id dependency : CheckId) : Prop := .skip id (.dependencyFailed dependency) ∈ deeds

namespace ScheduleState

variable {failFast : Bool} {s t : ScheduleState} {deeds : List Deed}

/-- A skip names the blocker, and while the run goes on all dependencies have finished by then. -/
theorem Allows.blocker_of_skip {id d : CheckId} (allowed : s.Allows (.skip id (.dependencyFailed d))) :
    s.blocker id = some d ∧ (s.stopped = false → ∀ other, s.graph.DependsOn id other → other ∈ s.finished) := by
  rcases allowed.skip_cases.2 with ⟨_, _, barred, e⟩ | ⟨stopped, _, e⟩
  · cases e
    obtain ⟨blocker, finished⟩ := blocker_of_barred barred
    exact ⟨blocker, fun _ => finished⟩
  · refine ⟨?_, fun going => by rw [stopped] at going; cases going⟩
    unfold reasonLeft at e
    split at e
    · cases e
      assumption
    · cases e

namespace Course

variable (course : Course failFast s deeds t) (h : s.Consistent)
include course h

/-- **What a skip names did not pass**, and without a stop it is the first dependency that did not. -/
theorem missed_of_blames {id d : CheckId} (blames : Blames deeds id d) :
    s.graph.DependsOn id d ∧ t.didNotPass d = true ∧
      (t.stopped = false → (s.graph.dependencies id).find? t.didNotPass = some d) := by
  obtain ⟨before, after, rfl⟩ := List.append_of_mem blames
  obtain ⟨m, first, rest⟩ := course.split
  have consistent := first.consistent h
  have keeps : ∀ {other r}, m.result? other = some r → t.didNotPass other = m.didNotPass other := fun found => by
    rw [didNotPass, didNotPass, rest.result?_eq_of_some consistent found, found]
  have stopped := rest.stopped_eq consistent
  cases rest with
  | cons allowed _ =>
    obtain ⟨blocker, finished⟩ := allowed.blocker_of_skip
    rw [ScheduleState.blocker, first.graph_eq h] at blocker
    have missed : m.didNotPass d = true := List.find?_some blocker
    obtain ⟨r, found, _⟩ := result?_of_didNotPass missed
    refine ⟨List.mem_of_find?_eq_some blocker, (keeps found).trans missed, fun going => ?_⟩
    have going' : m.stopped = false := (Bool.or_eq_false_iff.mp (stopped ▸ going)).1
    rw [← blocker]
    refine List.find?_congr fun other dep => ?_
    obtain ⟨r, found⟩ := consistent.exists_result (finished going' other (first.graph_eq h ▸ dep))
    exact keeps found

/-- **The checks that skips name lead to a cause.** The induction is along dependencies. -/
theorem exists_cause (fresh : s.results = []) (acyclic : s.graph.Acyclic) {id d : CheckId} (blames : Blames deeds id d) :
    ∃ cause, Relation.TransGen (Blames deeds) id cause ∧
      ((∃ c, .complete c ∈ deeds ∧ c.id = cause ∧ c.result.isPassed = false) ∨
        t.stopped = true ∧ .skip cause .failFast ∈ deeds) := by
  induction id using acyclic.wellFounded.induction generalizing d with
  | _ id ih =>
    obtain ⟨dep, missed, _⟩ := course.missed_of_blames h blames
    obtain ⟨r, found, failed⟩ := result?_of_didNotPass missed
    obtain ⟨hr, rfl⟩ := mem_of_result? found
    rcases course.result_cases h fresh hr with ⟨reason, skipped, _⟩ | ⟨c, completed, rfl⟩
    · cases reason with
      | notApplicable => cases course.verdict_of_skip skipped
      | failFast => exact ⟨_, .single blames, .inr ⟨course.stopped_of_skip h skipped, skipped⟩⟩
      | dependencyFailed next =>
        obtain ⟨cause, path, why⟩ := ih r.check dep skipped
        exact ⟨cause, .head blames path, why⟩
    · exact ⟨_, .single blames, .inl ⟨c, completed, rfl, failed⟩⟩

end Course

/-- **Skips are truthful, and lead to their cause.** What a skip names is a dependency in the run that did not pass, and,
unless the run was stopped, the first one. Each skipped check names one, and going from name to name ends at a check that
was executed and did not pass, or, only in a run that was stopped, at one that was left for fail-fast. -/
theorem skips_lead_to_their_cause {units : List BoundCheck} {graph : DependencyGraph}
    (distinct : (units.map (·.id)).Nodup) (accepted : DependencyGraph.ofAcyclic units = .ok graph) {σ : Type}
    (w : Workers σ) (a : Assignment) (limit : SlotLimit) (seen : List Event) (start : σ) :
    let first := initial graph (.ofLimit limit) seen
    let last := (first.loop w a start).state
    (∃ deeds, Course a.failFast first deeds last ∧ ∀ c, .complete c ∈ deeds → Answered w a first start c) ∧
    ∀ deeds, Course a.failFast first deeds last → last.results = deeds.filterMap Deed.result? ∧
      ∀ id d, Blames deeds id d →
        graph.DependsOn id d ∧ (∃ r, last.result? d = some r ∧ r.isPassed = false) ∧
        (last.stopped = false → (graph.dependencies id).find? last.didNotPass = some d) ∧
        (∀ other, Blames deeds id other → other = d) ∧
        ∃ cause, Relation.TransGen (Blames deeds) id cause ∧
          ((∃ c, .complete c ∈ deeds ∧ c.id = cause ∧ c.result.isPassed = false) ∨
            last.stopped = true ∧ .skip cause .failFast ∈ deeds) := by
  intro first last
  obtain ⟨rfl, acyclic⟩ := (DependencyGraph.ofAcyclic_eq_ok_iff distinct).mp accepted
  have h : first.Consistent := consistent_initial (DependencyGraph.proper_ofUnits distinct).distinct limit seen
  refine ⟨answered_loop .here h, fun deeds course => ⟨course.results_eq h, fun id d blames => ?_⟩⟩
  obtain ⟨dep, missed, first'⟩ := course.missed_of_blames h blames
  refine ⟨dep, result?_of_didNotPass missed, first', fun other blames' => ?_, course.exists_cause h rfl acyclic blames⟩
  cases course.reason_unique h blames blames'
  rfl

/-- In the sample gate the failure of linting stops the run with typing left for fail-fast, and the documentation is
skipped because of the types. -/
theorem sampleGate_blames :
    let first := initial (.ofUnits SampleGate.units) (.ofLimit ⟨2, by decide⟩) []
    let last := (first.loop (.replay SampleGate.outcome) ⟨SampleGate.units, false, true⟩ (SampleGate.batches true)).state
    let docs : CheckId := ⟨"python", "docs"⟩
    let types : CheckId := ⟨"python", "types"⟩
    ∃ deeds, Course true first deeds last ∧ Blames deeds docs types ∧
      (∃ r, last.result? types = some r ∧ r.isPassed = false) ∧
      ∃ cause, Relation.TransGen (Blames deeds) docs cause ∧
        ((∃ c, .complete c ∈ deeds ∧ c.id = cause ∧ c.result.isPassed = false) ∨
          last.stopped = true ∧ .skip cause .failFast ∈ deeds) := by
  intro first last docs types
  have h : first.Consistent := consistent_initial (by decide) _ _
  obtain ⟨⟨deeds, course, _⟩, truthful⟩ := skips_lead_to_their_cause SampleGate.distinct_units SampleGate.accepted_units
    (.replay SampleGate.outcome) ⟨SampleGate.units, false, true⟩ ⟨2, by decide⟩ [] (SampleGate.batches true)
  -- the documentation is not started, so the result that it has is the scheduler's own
  have left : .skipped docs (.dependencyFailed types) ∈ last.results := by decide +kernel
  have unseen : .started docs ∉ last.trace := by decide +kernel
  have blames : Blames deeds docs types := by
    rcases course.result_cases h rfl left with ⟨reason, skipped, same⟩ | ⟨c, completed, same⟩
    · cases reason with
      | dependencyFailed other =>
        cases congrArg CheckResult.omission same
        exact skipped
      | _ => cases congrArg CheckResult.omission same
    · have started := course.start_mem_of_complete h rfl completed
      rw [show c.id = docs from congrArg CheckResult.check same] at started
      exact absurd ((course.started_mem_trace_iff h).mpr (.inr started)) unseen
  obtain ⟨_, missed, _, _, cause⟩ := (truthful deeds course).2 docs types blames
  exact ⟨deeds, course, blames, missed, cause⟩

end ScheduleState

end GateRunner
