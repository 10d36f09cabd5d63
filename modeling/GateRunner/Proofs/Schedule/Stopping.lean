import GateRunner.Proofs.Schedule.Occupancy
import GateRunner.Proofs.Schedule.Waits

/-!
# What a failure stops

Under fail-fast the first failure that is taken in stops the run, and a stop is for good: no later deed is a start
(`Course.start_not_mem_of_stopped`). The failure may come anywhere in a batch. What comes after it in the batch, and
what is in flight beyond it, is still taken in, each check with the result that its worker answered with in this run
(`Answered`).

**The law** (`failure_stops_submissions`): after the event of a failure no check starts, and every check that was under
way at that moment gets a result of its own. Only a failure of a started check stops a run, and only under fail-fast, so
that nothing else makes the scheduler skip a check for fail-fast.

The first half is read off the events. The second is about where a result comes from, which a result does not tell: a
check may well answer with a result that looks like a skip. So it is about the deeds of the run.
-/

namespace GateRunner

/-- A result that says a check failed is one that its worker answered with. -/
theorem Deed.eq_complete_of_failed {deed : Deed} {r : CheckResult} (seen : deed.event = .finished r)
    (failed : r.isFailed = true) : ∃ c, deed = .complete c ∧ c.result.under c.id = r := by
  cases deed with
  | skip id reason =>
    cases seen
    rw [CheckResult.isFailed_skipped] at failed
    cases failed
  | start _ => cases seen
  | complete c =>
    cases seen
    exact ⟨c, rfl, rfl⟩

namespace ScheduleState

variable {failFast : Bool} {s t : ScheduleState} {deeds : List Deed}

/-- **A stop is for good**: on a course from a state that is stopped nothing starts. -/
theorem Course.start_not_mem_of_stopped (course : Course failFast s deeds t) (h : s.Consistent)
    (stopped : s.stopped = true) (id : CheckId) : .start id ∉ deeds := by
  intro mem
  obtain ⟨before, after, rfl⟩ := List.append_of_mem mem
  obtain ⟨m, first, rest⟩ := course.split
  have still : m.stopped = true := by rw [first.stopped_eq h, stopped, Bool.true_or]
  cases rest with
  | cons allowed _ =>
    cases allowed with
    | ready _ going _ _ =>
      rw [still] at going
      cases going

/-- A check that is completed on a course has its worker's result ever after. -/
theorem Course.result?_of_complete (course : Course failFast s deeds t) (h : s.Consistent) {c : Completion}
    (completed : .complete c ∈ deeds) : t.result? c.id = some (c.result.under c.id) := by
  have mem : c.result.under c.id ∈ t.results := by
    rw [course.results_eq h]
    exact List.mem_append_right _ (List.mem_filterMap.mpr ⟨_, completed, rfl⟩)
  exact (course.consistent h).result?_of_mem mem

/-- A check that is left for fail-fast was left by a stop. -/
theorem Course.stopped_of_skip (course : Course failFast s deeds t) (h : s.Consistent) {id : CheckId}
    (skipped : .skip id .failFast ∈ deeds) : t.stopped = true := by
  obtain ⟨before, after, rfl⟩ := List.append_of_mem skipped
  obtain ⟨m, first, rest⟩ := course.split
  cases rest with
  | cons allowed later =>
    rcases allowed.skip_cases.2 with ⟨_, d, _, e⟩ | ⟨stopped, _, _⟩
    · cases e
    · have still := (Course.cons allowed later).stopped_eq (first.consistent h)
      rw [still, stopped, Bool.true_or]

/-- After a failure under fail-fast nothing starts any more, and whatever else was under way is completed, if nothing is in
flight at the end. -/
theorem Course.after_failure {early late : List Deed} {c : Completion}
    (course : Course failFast s (early ++ .complete c :: late) t) (h : s.Consistent) (tracked : Tracked [] s)
    (under : failFast = true) (failed : c.result.isFailed = true) :
    (∀ id, .start id ∉ late) ∧
      (t.running = [] → ∀ id ∈ underWay (early.map Deed.event), id ≠ c.id → ∃ own, .complete own ∈ late ∧ own.id = id) := by
  obtain ⟨m, first, rest⟩ := course.split
  have consistent := first.consistent h
  cases rest with
  | cons allowed later =>
    cases allowed with
    | inFlight running =>
      have after := consistent.after_complete running failFast
      have shape := consistent.takeIn_eq running failFast
      have stopped : (m.takeIn failFast c).stopped = true := by
        rw [shape]
        show (m.stopped || (failFast && c.result.isFailed)) = true
        rw [under, failed, Bool.and_true, Bool.or_true]
      refine ⟨later.start_not_mem_of_stopped after stopped, fun idle id inFlight other => ?_⟩
      have still : id ∈ (m.takeIn failFast c).running := by
        rw [shape]
        exact (List.mem_erase_of_ne other).mpr ((first.tracked h tracked).running ▸ inFlight)
      exact later.complete_mem_of_running after idle (.inl still)

/-- **A failure stops submissions, and nothing else does.** After the event of a failure under fail-fast no check starts,
and each check that was under way gets what its worker answers with in the run, if workers answer. A run is only stopped
by a failure of a check that it started, under fail-fast, and only then does it leave a check for fail-fast. -/
theorem failure_stops_submissions {units : List BoundCheck} {graph : DependencyGraph}
    (distinct : (units.map (·.id)).Nodup) (accepted : DependencyGraph.ofAcyclic units = .ok graph) {σ : Type}
    (w : Workers σ) (a : Assignment) (limit : SlotLimit) (seen : List Event) (start : σ) :
    let first := initial graph (.ofLimit limit) seen
    let last := (first.loop w a start).state
    let news := last.newsSince first
    let failure := a.failFast = true ∧ ∃ r, .finished r ∈ news ∧ .started r.check ∈ news ∧ r.isFailed = true
    (a.failFast = true → ∀ before r after, news = before ++ .finished r :: after → r.isFailed = true →
      (∀ id, .started id ∉ after) ∧
      (Responsive w a first start → ∀ id ∈ underWay before, id ≠ r.check →
        ∃ own, Answered w a first start own ∧ own.id = id ∧ .finished (own.result.under id) ∈ after ∧
          last.result? id = some (own.result.under id))) ∧
    (last.stopped = true → failure) ∧
    (∃ deeds, Course a.failFast first deeds last) ∧
    ∀ deeds, Course a.failFast first deeds last → news = deeds.map Deed.event ∧
      ∀ id, .skip id .failFast ∈ deeds → failure := by
  intro first last news failure
  obtain ⟨rfl, acyclic⟩ := (DependencyGraph.ofAcyclic_eq_ok_iff distinct).mp accepted
  have proper := DependencyGraph.proper_ofUnits distinct
  have h : first.Consistent := consistent_initial proper.distinct limit seen
  obtain ⟨deeds, course, answered⟩ := answered_loop (.here : Turns w a first start first start) h
  have events : ∀ {deeds}, Course a.failFast first deeds last → news = deeds.map Deed.event := fun course =>
    course.newsSince_eq h
  have stops : last.stopped = true → failure := by
    intro stopped
    obtain ⟨under, c, completed, failed⟩ := course.failed_of_stopped h rfl stopped
    refine ⟨under, c.result.under c.id, ?_, ?_, failed⟩
    · rw [events course]
      exact List.mem_map.mpr ⟨_, completed, rfl⟩
    · rw [events course]
      exact List.mem_map.mpr ⟨_, course.start_mem_of_complete h rfl completed, rfl⟩
  refine ⟨fun under before r after split failed => ?_, stops, ⟨deeds, course⟩,
    fun deeds course => ⟨events course, fun id skipped => stops (course.stopped_of_skip h skipped)⟩⟩
  -- the event of the failure is that of a completion
  rw [events course] at split
  obtain ⟨early, rest, rfl, rfl, hrest⟩ := List.map_eq_append_iff.mp split
  obtain ⟨deed, late, rfl, seen', rfl⟩ := List.map_eq_cons_iff.mp hrest
  obtain ⟨c, rfl, rfl⟩ := Deed.eq_complete_of_failed seen' failed
  obtain ⟨quiet, awaited⟩ := course.after_failure h (tracked_initial _ limit seen) under failed
  refine ⟨fun id started => ?_, fun responsive id inFlight other => ?_⟩
  · obtain ⟨deed, hdeed, e⟩ := List.mem_map.mp started
    exact quiet id (Deed.eq_start_of_event e ▸ hdeed)
  · have sound := loop_fault_eq_none responsive h proper.mem_order_of_dependsOn acyclic
    have idle : last.running = [] := ((carried_loop (w := w) (a := a) h start).2 sound).2
    obtain ⟨own, completed, rfl⟩ := awaited idle id inFlight other
    have among : .complete own ∈ early ++ .complete c :: late :=
      List.mem_append_right _ (List.mem_cons_of_mem _ completed)
    exact ⟨own, answered own among, rfl, List.mem_map.mpr ⟨_, completed, rfl⟩, course.result?_of_complete h among⟩

/-- In the sample gate the audit is under way when linting fails. It gets its own result, and no check starts any more. -/
theorem sampleGate_stopped :
    let first := initial (.ofUnits SampleGate.units) (.ofLimit ⟨2, by decide⟩) []
    let last := (first.loop (.replay SampleGate.outcome) ⟨SampleGate.units, false, true⟩ (SampleGate.batches true)).state
    let audit : CheckId := ⟨"python", "audit"⟩
    ∃ before after, last.newsSince first = before ++ .finished (SampleGate.outcome ⟨"python", "lint"⟩) :: after ∧
      (SampleGate.outcome ⟨"python", "lint"⟩).isFailed = true ∧ audit ∈ underWay before ∧
      (∀ id, .started id ∉ after) ∧ ∃ own : Completion, own.id = audit ∧ .finished (own.result.under audit) ∈ after := by
  intro first last audit
  have split : last.newsSince first = (last.newsSince first).take 4 ++
      .finished (SampleGate.outcome ⟨"python", "lint"⟩) :: (last.newsSince first).drop 5 := by decide +kernel
  have underway : audit ∈ underWay ((last.newsSince first).take 4) := by decide +kernel
  obtain ⟨stops, _⟩ := failure_stops_submissions SampleGate.distinct_units SampleGate.accepted_units
    (.replay SampleGate.outcome) ⟨SampleGate.units, false, true⟩ ⟨2, by decide⟩ [] (SampleGate.batches true)
  obtain ⟨quiet, awaited⟩ := stops rfl _ _ _ split rfl
  obtain ⟨own, _, same, finished, _⟩ := awaited Workers.responsive_replay audit underway (by decide)
  exact ⟨_, _, split, rfl, underway, quiet, own, same, finished⟩

end ScheduleState

end GateRunner
