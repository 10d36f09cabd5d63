import GateRunner.Proofs.Schedule.Safety
import GateRunner.Proofs.Schedule.Waits

/-!
# Runs against what is expected

What checks are expected to come out as (`DependencyGraph.expected`) says nothing of schedules. `Agrees` is what ties a
state of a run to it: a check that passed was expected to, and until the run is stopped every result is the expected
one. Each allowed deed keeps it (`Agrees.step`), whatever the slots and the order of completion. A skip names the first
dependency that did not pass, which is the first that was not expected to; a check in flight has only dependencies that
passed, so it is expected to come out as it does.

**The law** (`loop_account`): a run under workers that answer ends without a fault, and its `Account` is in order. The
checks that were started have the results expected of them and rest on started checks that passed, the others are
skipped, and unless a started check failed under fail-fast every result is the expected one.
-/

namespace GateRunner

variable {graph : DependencyGraph} {acyclic : graph.Acyclic} {outcome : CheckId → CheckResult} {failFast : Bool}

namespace ScheduleState

variable {s t : ScheduleState}

/-- Where a run stands, measured against what is expected. -/
structure Agrees (acyclic : graph.Acyclic) (outcome : CheckId → CheckResult) (s : ScheduleState) : Prop where
  graph_eq : s.graph = graph
  /-- A check that passed was expected to pass. -/
  passed : ∀ r ∈ s.results, r.isPassed = true → (graph.expected acyclic outcome r.check).isPassed = true
  /-- Until the run is stopped, every result is the one that is expected. -/
  going : s.stopped = false → ∀ r ∈ s.results, r = graph.expected acyclic outcome r.check

theorem agrees_initial (acyclic : graph.Acyclic) (outcome : CheckId → CheckResult) (slots : Slots)
    (trace : List Event) : (initial graph slots trace).Agrees acyclic outcome :=
  ⟨rfl, fun _ hr => absurd hr List.not_mem_nil, fun _ _ hr => absurd hr List.not_mem_nil⟩

namespace Agrees

variable (agrees : s.Agrees acyclic outcome) (h : s.Consistent)
include agrees h

/-- A check in flight has only dependencies that passed, so it is expected to come out as it does. -/
theorem completed {c : Completion} (running : c.id ∈ s.running) (follows : c.result = outcome c.id) :
    c.result.under c.id = graph.expected acyclic outcome c.id := by
  rw [follows, DependencyGraph.expected_of_passed]
  intro d dep
  obtain ⟨r, hr, check, passed⟩ := h.inFlight c.id running d (agrees.graph_eq.symm ▸ dep)
  exact check ▸ agrees.passed r hr passed

/-- The dependency that the scheduler names in a skip is the first that is not expected to pass. -/
theorem barred {id d : CheckId} (going : s.stopped = false) (barred : s.prospect id = .barred d) :
    .skipped id (.dependencyFailed d) = graph.expected acyclic outcome id := by
  obtain ⟨blocker, finished⟩ := blocker_of_barred barred
  have same : ∀ d' ∈ s.graph.dependencies id, s.didNotPass d' = !(graph.expected acyclic outcome d').isPassed := by
    intro d' hd'
    obtain ⟨r, found⟩ := h.exists_result (finished d' hd')
    obtain ⟨hr, rfl⟩ := mem_of_result? found
    rw [didNotPass, found, Option.any_some, ← agrees.going going r hr]
  rw [ScheduleState.blocker, List.find?_congr same, agrees.graph_eq] at blocker
  exact (DependencyGraph.expected_of_first blocker).symm

/-- The result that a deed leaves is the expected one, unless the run was stopped and the check was left. -/
theorem result_of_allowed {deed : Deed} (allowed : s.Allows deed)
    (follows : ∀ c, deed = .complete c → c.result = outcome c.id) {r : CheckResult} (left : deed.result? = some r) :
    r = graph.expected acyclic outcome r.check ∨ s.stopped = true ∧ r.isPassed = false := by
  cases allowed with
  | barred _ going barred =>
    cases left
    exact .inl (agrees.barred h going barred)
  | ready => cases left
  | inFlight running =>
    cases left
    exact .inl (agrees.completed h running (follows _ rfl))
  | left _ stopped _ =>
    cases left
    exact .inr ⟨stopped, CheckResult.isPassed_skipped _ _⟩

/-- **Every allowed deed keeps the agreement.** -/
theorem step {deed : Deed} (allowed : s.Allows deed) (failFast : Bool)
    (follows : ∀ c, deed = .complete c → c.result = outcome c.id) :
    (s.after failFast deed).Agrees acyclic outcome := by
  have record := h.stepRecord allowed failFast
  have mem : ∀ r ∈ (s.after failFast deed).results, r ∈ s.results ∨ deed.result? = some r := by
    intro r hr
    rw [record.results] at hr
    exact (List.mem_append.mp hr).imp_right Option.mem_toList.mp
  refine ⟨record.graph.trans agrees.graph_eq, ?_, ?_⟩
  · intro r hr passed
    rcases mem r hr with before | left
    · exact agrees.passed r before passed
    · rcases agrees.result_of_allowed h allowed follows left with expected | ⟨_, missed⟩
      · exact expected ▸ passed
      · rw [missed] at passed
        cases passed
  · intro going r hr
    have going' : s.stopped = false := (Bool.or_eq_false_iff.mp (record.stopped ▸ going)).1
    rcases mem r hr with before | left
    · exact agrees.going going' r before
    · rcases agrees.result_of_allowed h allowed follows left with expected | ⟨stopped, _⟩
      · exact expected
      · rw [going'] at stopped
        cases stopped

end Agrees

/-- After a course the state agrees with what is expected, and so does every completion on the way. -/
theorem Course.agrees {deeds : List Deed} (course : Course failFast s deeds t) (h : s.Consistent)
    (agrees : s.Agrees acyclic outcome) (follows : ∀ c, .complete c ∈ deeds → c.result = outcome c.id) :
    t.Agrees acyclic outcome ∧
      ∀ c, .complete c ∈ deeds → c.result.under c.id = graph.expected acyclic outcome c.id := by
  induction course with
  | nil => exact ⟨agrees, fun c hc => absurd hc List.not_mem_nil⟩
  | cons allowed _ ih =>
    -- the later completions are judged in the state after this deed, where the agreement holds again
    have first := agrees.step h allowed failFast fun c e => follows c (e ▸ List.mem_cons_self)
    obtain ⟨last, later⟩ := ih (h.step allowed failFast) first fun c hc => follows c (List.mem_cons_of_mem _ hc)
    refine ⟨last, fun c hc => ?_⟩
    rcases List.mem_cons.mp hc with rfl | hc
    · cases allowed with
      | inFlight running => exact agrees.completed h running (follows c List.mem_cons_self)
    · exact later c hc

end ScheduleState

/-! ## The account of a run -/

/-- How a run went, measured against what is expected: what was seen of it, and what each check of the graph came out
as. -/
structure Account (acyclic : graph.Acyclic) (outcome : CheckId → CheckResult) (failFast : Bool) (trace : List Event)
    (result : CheckId → CheckResult) : Prop where
  /-- A check that was started has the expected result. -/
  started : ∀ id, .started id ∈ trace → id ∈ graph.order ∧ result id = graph.expected acyclic outcome id
  /-- What a started check depends on was started, and passed. -/
  founded : ∀ id, .started id ∈ trace → ∀ d, graph.DependsOn id d → .started d ∈ trace ∧ (result d).isPassed = true
  /-- A check that was not started was skipped. -/
  left : ∀ id ∈ graph.order, .started id ∉ trace →
    ∃ reason, result id = .skipped id reason ∧ reason.verdict = .skipped
  /-- All results are the expected ones, unless a failure of a started check stopped the run. -/
  whole : (∀ id ∈ graph.order, result id = graph.expected acyclic outcome id) ∨
    failFast = true ∧ ∃ id, .started id ∈ trace ∧ (result id).isFailed = true

namespace ScheduleState

variable {s t : ScheduleState} {deeds : List Deed}

/-- What a check came out as. A check without a result would have been left by a stop. -/
def resultOf (s : ScheduleState) (id : CheckId) : CheckResult := (s.result? id).getD (.skipped id .failFast)

@[simp] theorem check_resultOf (s : ScheduleState) (id : CheckId) : (s.resultOf id).check = id := by
  unfold resultOf
  cases found : s.result? id with
  | none => exact CheckResult.check_skipped _ _
  | some r => exact (mem_of_result? found).2

/-- A course from the beginning of a run to its end. -/
structure Course.Whole (failFast : Bool) (s : ScheduleState) (deeds : List Deed) (t : ScheduleState) : Prop where
  course : Course failFast s deeds t
  consistent : s.Consistent
  fresh : s.results = []
  idle : s.running = []
  going : s.stopped = false
  unseen : ∀ id, .started id ∉ s.trace
  empty' : t.pending = []
  idle' : t.running = []

namespace Course.Whole

variable (run : Whole failFast s deeds t)
include run

theorem started_iff {id : CheckId} : .started id ∈ t.trace ↔ .start id ∈ deeds :=
  (run.course.started_mem_trace_iff run.consistent).trans (or_iff_right (run.unseen id))

theorem start_iff {id : CheckId} : .start id ∈ deeds ↔ ∃ c, .complete c ∈ deeds ∧ c.id = id :=
  run.course.start_mem_iff run.consistent run.idle run.idle'

/-- Nothing is pending or in flight, so the checks with a result are those of the graph. -/
theorem mem_order_iff {id : CheckId} : id ∈ s.graph.order ↔ ∃ r ∈ t.results, r.check = id := by
  have last := run.course.consistent run.consistent
  rw [← run.course.graph_eq run.consistent, ← last.parted.mem_iff, run.empty', run.idle', last.recorded, List.nil_append,
    List.nil_append, List.mem_map]

theorem result?_eq {r : CheckResult} (hr : r ∈ t.results) : t.result? r.check = some r :=
  (run.course.consistent run.consistent).result?_of_mem hr

theorem resultOf_eq {r : CheckResult} (hr : r ∈ t.results) : t.resultOf r.check = r := by
  rw [resultOf, run.result?_eq hr, Option.getD_some]

/-- The checks of the graph have a result each, and no others do. -/
theorem result?_eq_ite (id : CheckId) : t.result? id = if id ∈ s.graph.order then some (t.resultOf id) else none := by
  by_cases hid : id ∈ s.graph.order
  · obtain ⟨r, hr, rfl⟩ := run.mem_order_iff.mp hid
    rw [if_pos hid, run.result?_eq hr, run.resultOf_eq hr]
  · rw [if_neg hid]
    refine result?_eq_none_iff.mpr fun mem => hid (run.mem_order_iff.mpr ?_)
    simpa only [List.mem_map] using mem

theorem mem_results_of_complete {c : Completion} (hc : .complete c ∈ deeds) : c.result.under c.id ∈ t.results := by
  rw [run.course.results_eq run.consistent]
  exact List.mem_append_right _ (List.mem_filterMap.mpr ⟨_, hc, rfl⟩)

theorem resultOf_of_complete {c : Completion} (hc : .complete c ∈ deeds) : t.resultOf c.id = c.result.under c.id :=
  run.resultOf_eq (run.mem_results_of_complete hc)

/-- A result is of a check that was skipped, or of one that was started. -/
theorem skipped_or_started {r : CheckResult} (hr : r ∈ t.results) :
    (∃ reason, r = .skipped r.check reason ∧ reason.verdict = .skipped) ∨ .start r.check ∈ deeds := by
  rcases run.course.result_cases run.consistent run.fresh hr with ⟨reason, skipped, same⟩ | ⟨c, completed, rfl⟩
  · exact .inl ⟨reason, same, run.course.verdict_of_skip skipped⟩
  · exact .inr (run.start_iff.mpr ⟨c, completed, rfl⟩)

/-- What a started check depends on was started, and passed. -/
theorem passed_of_start {id d : CheckId} (start : .start id ∈ deeds) (dep : s.graph.DependsOn id d) :
    .start d ∈ deeds ∧ ∃ r ∈ t.results, r.check = d ∧ r.isPassed = true := by
  obtain ⟨before, after, rfl⟩ := List.append_of_mem start
  obtain ⟨r, seen, rfl, passed⟩ := run.course.passed_before_start run.consistent run.fresh (.single dep)
  have mem : r ∈ t.results := by
    obtain ⟨deed, hdeed, e⟩ := List.mem_map.mp seen
    rw [run.course.results_eq run.consistent]
    exact List.mem_append_right _ (List.mem_filterMap.mpr
      ⟨deed, List.mem_append_left _ hdeed, by rw [Deed.result?, e]; rfl⟩)
  rcases run.skipped_or_started mem with ⟨reason, skipped, _⟩ | started
  · rw [skipped, CheckResult.isPassed_skipped] at passed
    cases passed
  · exact ⟨started, r, mem, rfl, passed⟩

/-- **The account of a whole run is in order**, if what is completed comes out as expected. -/
theorem account (agrees : s.Agrees acyclic outcome) (follows : ∀ c, .complete c ∈ deeds → c.result = outcome c.id) :
    Account acyclic outcome failFast t.trace t.resultOf := by
  obtain ⟨agrees', completed⟩ := run.course.agrees run.consistent agrees follows
  obtain rfl := agrees.graph_eq
  -- every result is of a skip or of a completion; what was started has completed, since nothing is in flight at the end
  refine ⟨?_, ?_, ?_, ?_⟩
  · intro id seen
    obtain ⟨c, hc, rfl⟩ := run.start_iff.mp (run.started_iff.mp seen)
    refine ⟨run.mem_order_iff.mpr ⟨_, run.mem_results_of_complete hc, rfl⟩, ?_⟩
    rw [run.resultOf_of_complete hc, completed c hc]
  · intro id seen d dep
    obtain ⟨start, r, hr, rfl, passed⟩ := run.passed_of_start (run.started_iff.mp seen) dep
    exact ⟨run.started_iff.mpr start, (run.resultOf_eq hr).symm ▸ passed⟩
  · intro id hid unseen
    obtain ⟨r, hr, rfl⟩ := run.mem_order_iff.mp hid
    rw [run.resultOf_eq hr]
    exact (run.skipped_or_started hr).resolve_right fun start => unseen (run.started_iff.mpr start)
  · cases stopped : t.stopped with
    | false =>
      left
      intro id hid
      obtain ⟨r, hr, rfl⟩ := run.mem_order_iff.mp hid
      rw [run.resultOf_eq hr]
      exact agrees'.going stopped r hr
    | true =>
      obtain ⟨under, c, hc, failed⟩ := run.course.failed_of_stopped run.consistent run.going stopped
      right
      refine ⟨under, c.id, run.started_iff.mpr (run.start_iff.mpr ⟨c, hc, rfl⟩), ?_⟩
      rw [run.resultOf_of_complete hc, CheckResult.isFailed_under]
      exact failed

end Course.Whole

/-! ## The loop -/

variable {σ : Type} {w : Workers σ} {a : Assignment}

/-- A run that ends without a fault is a course from its beginning to its end. -/
theorem loop_whole (distinct : graph.order.Nodup) (limit : SlotLimit) {seen : List Event}
    (unseen : ∀ id, .started id ∉ seen) (world : σ)
    (none : ((initial graph (.ofLimit limit) seen).loop w a world).fault = none) :
    ∃ deeds, Course.Whole a.failFast (initial graph (.ofLimit limit) seen) deeds
        ((initial graph (.ofLimit limit) seen).loop w a world).state ∧
      ∀ c, .complete c ∈ deeds → Answered w a (initial graph (.ofLimit limit) seen) world c := by
  have h : (initial graph (.ofLimit limit) seen).Consistent := consistent_initial distinct limit seen
  obtain ⟨deeds, course, answered⟩ := answered_loop (.here : Turns w a _ world _ world) h
  obtain ⟨_, ended⟩ := carried_loop (w := w) (a := a) h world
  exact ⟨deeds, ⟨course, h, rfl, rfl, rfl, unseen, (ended none).1, (ended none).2⟩, answered⟩

/-- A run that ends without a fault leaves each check of the graph a result, and no other check. -/
theorem loop_result?_eq_ite (distinct : graph.order.Nodup) (limit : SlotLimit) {seen : List Event}
    (unseen : ∀ id, .started id ∉ seen) (world : σ)
    (sound : ((initial graph (.ofLimit limit) seen).loop w a world).fault = none) (id : CheckId) :
    let ending := (initial graph (.ofLimit limit) seen).loop w a world
    ending.state.result? id = if id ∈ graph.order then some (ending.state.resultOf id) else none := by
  obtain ⟨_, run, _⟩ := loop_whole distinct limit unseen world sound
  exact run.result?_eq_ite id

/-- **A run under workers that answer ends without a fault, and its account is in order.** -/
theorem loop_account (acyclic : graph.Acyclic) (distinct : graph.order.Nodup)
    (closed : ∀ {id d}, graph.DependsOn id d → d ∈ graph.order) (limit : SlotLimit) {seen : List Event}
    (unseen : ∀ id, .started id ∉ seen) (world : σ)
    (responsive : Responsive w a (initial graph (.ofLimit limit) seen) world)
    (fixed : ∀ c, Answered w a (initial graph (.ofLimit limit) seen) world c → c.result = outcome c.id) :
    let ending := (initial graph (.ofLimit limit) seen).loop w a world
    ending.fault = none ∧ Account acyclic outcome a.failFast ending.state.trace ending.state.resultOf := by
  intro ending
  have h : (initial graph (.ofLimit limit) seen).Consistent := consistent_initial distinct limit seen
  have sound := loop_fault_eq_none responsive h closed acyclic
  obtain ⟨deeds, run, answered⟩ := loop_whole (w := w) (a := a) distinct limit unseen world sound
  exact ⟨sound, run.account (agrees_initial acyclic outcome _ seen) fun c hc => fixed c (answered c hc)⟩

end ScheduleState

end GateRunner
