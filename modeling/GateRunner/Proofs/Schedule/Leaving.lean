import GateRunner.Proofs.Graph.Emission
import GateRunner.Proofs.Schedule.Replay
import GateRunner.Proofs.Schedule.Waits
import GateRunner.Proofs.WorkingSet.Dependence
import GateRunner.Proofs.WorkingSet.Part

/-!
# Why a check is left, and what its place in the list has to do with it

A stop leaves checks pending. When nothing is in flight any more they are skipped one after the other in the order in
which they are listed, and a skip is on record before the next check is looked at. So a check is skipped because of a
dependency that did not pass before, or because of one that is left too and happens to be listed before it; a dependency
that is listed after it does not count (`culprit`, `result?_settle`). The types are listed before the tests that need
them when they are asked for, and after them when they come along with the tests.

**The law** (`left_reason_agrees_iff`): two runs over the same checks in different orders, which have come to the same
results when the last check in flight has finished, give a check that is left the same reason exactly when it has the
same culprit in both. They do where the dependencies of the check stand on the same side of it in both lists. They need
not otherwise (`left_reason_depends_on_listing`), although what is on record by then would give it one reason in all.
-/

namespace GateRunner

namespace ScheduleState

variable {s : ScheduleState}

/-- The pending checks that are listed before a check. -/
def ahead (s : ScheduleState) (id : CheckId) : List CheckId := s.pending.takeWhile (· ≠ id)

/-- The first dependency of a check that did not pass, or that is pending and listed before it. -/
def culprit (s : ScheduleState) (id : CheckId) : Option CheckId :=
  (s.graph.dependencies id).find? fun d => s.didNotPass d || d ∈ s.ahead id

/-- Why a check that is left is skipped: because of its culprit, or for fail-fast if it has none. -/
def reasonByListing (s : ScheduleState) (id : CheckId) : Omission :=
  match s.culprit id with
  | some d => .dependencyFailed d
  | none => .failFast

theorem reasonByListing_eq_iff {s' : ScheduleState} {id : CheckId} :
    s.reasonByListing id = s'.reasonByListing id ↔ s.culprit id = s'.culprit id := by
  unfold reasonByListing
  cases s.culprit id <;> cases s'.culprit id <;> simp

theorem skipped_eq_iff {id : CheckId} {reason reason' : Omission} :
    CheckResult.skipped id reason = .skipped id reason' ↔ reason = reason' :=
  ⟨fun same => Option.some.inj (congrArg CheckResult.omission same), congrArg _⟩

theorem ahead_self {id : CheckId} {rest : List CheckId} (pending : s.pending = id :: rest) : s.ahead id = [] := by
  rw [ahead, pending, List.takeWhile_cons_of_neg (by simp)]

/-- The first of the pending checks is left because of its culprit. -/
theorem reasonLeft_eq {id : CheckId} {rest : List CheckId} (pending : s.pending = id :: rest) :
    s.reasonLeft id = s.reasonByListing id := by
  have blocker : s.blocker id = s.culprit id := by
    simp only [blocker, culprit, ahead_self pending, List.not_mem_nil, decide_false, Bool.or_false]
  cases found : s.culprit id <;> simp only [reasonLeft, reasonByListing, blocker, found]

namespace Consistent

variable (h : s.Consistent)
include h

theorem result?_leave {id : CheckId} (pending : id ∈ s.pending) :
    (s.leave id).result? id = some (.skipped id (s.reasonLeft id)) := by
  have last : .skipped id (s.reasonLeft id) ∈ (s.leave id).results :=
    h.results_leave pending ▸ List.mem_append_right _ List.mem_cons_self
  exact (h.after_skip pending (s.reasonLeft id)).result?_of_mem (r := .skipped id (s.reasonLeft id)) last

/-- A check that is left did not pass. Of no other check is anything new known. -/
theorem didNotPass_leave {id : CheckId} (pending : id ∈ s.pending) (d : CheckId) :
    (s.leave id).didNotPass d = (s.didNotPass d || d = id) := by
  by_cases same : d = id
  · rw [same, didNotPass, h.result?_leave pending, Option.any_some, CheckResult.isPassed_skipped, decide_eq_true rfl,
      Bool.or_true]
    rfl
  · have other : (s.leave id).result? d = s.result? d :=
      result?_eq_of_recorded (h.results_leave pending) fun e => same e.symm
    rw [didNotPass, other, didNotPass, decide_eq_false same, Bool.or_false]

/-- The culprit of a check stays the same while the checks ahead of it are left: those that are no longer ahead of it are
on record by then. -/
theorem culprit_leave {id other : CheckId} {rest : List CheckId} (pending : s.pending = other :: rest) (hid : id ≠ other) :
    (s.leave other).culprit id = s.culprit id := by
  have hother : other ∈ s.pending := pending ▸ List.mem_cons_self
  have ahead_eq : s.ahead id = other :: (s.leave other).ahead id := by
    rw [ahead, ahead, pending, h.pending_leave pending, List.takeWhile_cons_of_pos (by simpa using hid.symm)]
  rw [culprit, culprit, h.graph_leave hother]
  refine List.find?_congr fun d _ => ?_
  rw [h.didNotPass_leave hother, ahead_eq, Bool.or_assoc, ← Bool.decide_or]
  simp only [List.mem_cons]

/-- **What settling makes of a check** that a stop has left. -/
theorem result?_settle (stopped : s.stopped = true) (idle : s.running = []) {id : CheckId} (hid : id ∈ s.pending) :
    s.settle.result? id = some (.skipped id (s.reasonByListing id)) := by
  -- by induction on the pending checks: the culprit stays the same until it is the turn of the check, and from then on
  -- its result does
  rw [settle_eq_foldl_leave h]
  generalize pending : s.pending = ids at hid
  induction ids generalizing s with
  | nil => exact absurd hid List.not_mem_nil
  | cons other rest ih =>
    have hother : other ∈ s.pending := pending ▸ List.mem_cons_self
    have after : (s.leave other).Consistent := h.after_skip hother _
    have left := h.pending_leave pending
    have stopped' := (h.stopped_leave hother).trans stopped
    have idle' := (h.running_leave hother).trans idle
    by_cases same : id = other
    · subst same
      obtain ⟨_, _, course, _⟩ := settle_course after true stopped' idle'
      rw [settle_eq_foldl_leave after, left] at course
      exact course.result?_eq_of_some after (reasonLeft_eq pending ▸ h.result?_leave hother)
    · have reason : (s.leave other).reasonByListing id = s.reasonByListing id :=
        reasonByListing_eq_iff.mpr (h.culprit_leave pending same)
      rw [List.foldl_cons, ih after stopped' idle' left ((List.mem_cons.mp hid).resolve_left same), reason]

end Consistent

/-! ## Two runs over the same checks -/

/-- With nothing in flight, the pending checks are those without a result. -/
theorem Consistent.mem_pending_iff (h : s.Consistent) (idle : s.running = []) {id : CheckId} :
    id ∈ s.pending ↔ id ∈ s.graph.order ∧ s.result? id = none := by
  constructor
  · intro pending
    exact ⟨h.parted.subset (List.mem_append_left _ (List.mem_append_left _ pending)),
      h.result?_eq_none (h.pending_not_finished pending)⟩
  · rintro ⟨listed, missing⟩
    have somewhere := h.parted.symm.subset listed
    rw [idle, List.append_nil] at somewhere
    refine (List.mem_append.mp somewhere).resolve_right fun finished => ?_
    obtain ⟨r, found⟩ := h.exists_result finished
    cases missing.symm.trans found

/-- Runs that have come to the same results, with nothing in flight, have the same checks left. -/
theorem Consistent.pending_perm_of_same {s' : ScheduleState} (h : s.Consistent) (h' : s'.Consistent)
    (idle : s.running = []) (idle' : s'.running = []) (orders : s'.graph.order.Perm s.graph.order)
    (same : ∀ id, s.result? id = s'.result? id) : s'.pending.Perm s.pending := by
  refine (List.perm_ext_iff_of_nodup h'.nodup_pending h.nodup_pending).mpr fun id => ?_
  rw [h.mem_pending_iff idle, h'.mem_pending_iff idle', same id]
  exact and_congr_left' orders.mem_iff

namespace Halted

variable {σ : Type} {w : Workers σ} {a : Assignment} {first : ScheduleState} {start : σ}
  (halted : Halted w a first start s) (h : first.Consistent)
include halted h

/-- What is known of a state in which a stopped run has nothing in flight any more. -/
theorem carried : s.Consistent ∧ s.graph = first.graph ∧ s.pending.Sublist first.pending := by
  obtain ⟨_, drains⟩ := halted.drained
  obtain ⟨⟨deeds, course, _⟩, _⟩ := drains.carried h
  exact ⟨course.consistent h, course.graph_eq h, course.pending_sublist h⟩

/-- At the end of the run a check that was left has the reason that its place in the list gives it. -/
theorem result?_loop (proper : first.graph.Proper) (acyclic : first.graph.Acyclic)
    (responsive : Responsive w a first start) {id : CheckId} (hid : id ∈ s.pending) :
    (loop w a first start).state.result? id = some (.skipped id (s.reasonByListing id)) := by
  rw [halted.state_loop responsive h proper.mem_order_of_dependsOn acyclic]
  exact (halted.carried h).1.result?_settle halted.stopped halted.idle hid

end Halted

/-- The culprit is the same where the dependencies, their results and what is ahead of the check are. -/
theorem culprit_congr {s' : ScheduleState} {id : CheckId} (graph : s.graph.dependencies id = s'.graph.dependencies id)
    (same : ∀ id, s.result? id = s'.result? id)
    (sides : ∀ d, s.graph.DependsOn id d → (d ∈ s.ahead id ↔ d ∈ s'.ahead id)) : s.culprit id = s'.culprit id := by
  rw [culprit, culprit, ← graph]
  refine List.find?_congr fun d dep => ?_
  rw [didNotPass, didNotPass, same, decide_eq_decide.mpr (sides d dep)]

/-- What is on record when nothing is in flight any more gives the same reason in every order. -/
theorem reasonLeft_congr {s' : ScheduleState} {id : CheckId} (graph : s.graph.dependencies id = s'.graph.dependencies id)
    (same : ∀ id, s.result? id = s'.result? id) : s.reasonLeft id = s'.reasonLeft id := by
  have blocker : s.blocker id = s'.blocker id := by
    rw [blocker, blocker, ← graph]
    exact List.find?_congr fun d _ => by rw [didNotPass, didNotPass, same]
  rw [reasonLeft, reasonLeft, blocker]

/-- **Two runs over the same checks in different orders**, with the same results when the last check in flight has
finished after a stop, have the same checks left. What is on record by then gives each of these the same reason in both.
But they get the same reason exactly when they have the same culprit in both, as they do when their dependencies are on
the same side of them in both lists. -/
theorem left_reason_agrees_iff {units units' : List BoundCheck} (relisted : units'.Perm units)
    (distinct : (units.map (·.id)).Nodup) {graph : DependencyGraph} (accepted : DependencyGraph.ofAcyclic units = .ok graph)
    {σ τ : Type} {w : Workers σ} {w' : Workers τ} (a a' : Assignment) (limit limit' : SlotLimit)
    (seen seen' : List Event) (start : σ) (start' : τ)
    (responsive : Responsive w a (initial graph (.ofLimit limit) seen) start)
    (responsive' : Responsive w' a' (initial (.ofUnits units') (.ofLimit limit') seen') start') {s s' : ScheduleState}
    (halted : Halted w a (initial graph (.ofLimit limit) seen) start s)
    (halted' : Halted w' a' (initial (.ofUnits units') (.ofLimit limit') seen') start' s')
    (same : ∀ id, s.result? id = s'.result? id) :
    let last := ((initial graph (.ofLimit limit) seen).loop w a start).state
    let last' := ((initial (.ofUnits units') (.ofLimit limit') seen').loop w' a' start').state
    s.pending.Sublist (units.map (·.id)) ∧ s'.pending.Sublist (units'.map (·.id)) ∧ s'.pending.Perm s.pending ∧
    ∀ id ∈ s.pending,
      s.reasonLeft id = s'.reasonLeft id ∧ last.result? id = some (.skipped id (s.reasonByListing id)) ∧
      (last.result? id = last'.result? id ↔ s.culprit id = s'.culprit id) ∧
      ((∀ d, graph.DependsOn id d → (d ∈ s.ahead id ↔ d ∈ s'.ahead id)) → last.result? id = last'.result? id) := by
  intro last last'
  obtain ⟨rfl, acyclic⟩ := (DependencyGraph.ofAcyclic_eq_ok_iff distinct).mp accepted
  have whole : WorkingSet.ClosedPart units' units := .of_perm relisted
  have distinct' : (units'.map (·.id)).Nodup := (relisted.map _).nodup_iff.mpr distinct
  have acyclic' : (DependencyGraph.ofUnits units').Acyclic := (WorkingSet.acyclic_ofUnits_iff distinct').mpr
    (whole.not_hasCircle ((WorkingSet.acyclic_ofUnits_iff distinct).mp acyclic))
  have proper := DependencyGraph.proper_ofUnits distinct
  have proper' := DependencyGraph.proper_ofUnits distinct'
  have h := consistent_initial proper.distinct limit seen
  have h' := consistent_initial proper'.distinct limit' seen'
  obtain ⟨now, graph, sub⟩ := halted.carried h
  obtain ⟨now', graph', sub'⟩ := halted'.carried h'
  have orders : s'.graph.order.Perm s.graph.order := by
    rw [graph, graph', initial, initial, DependencyGraph.order_ofUnits, DependencyGraph.order_ofUnits]
    exact relisted.map _
  have left := now.pending_perm_of_same now' halted.idle halted'.idle orders same
  rw [initial, DependencyGraph.order_ofUnits] at sub sub'
  refine ⟨sub, sub', left, fun id hid => ?_⟩
  have ended : last.result? id = some (.skipped id (s.reasonByListing id)) :=
    halted.result?_loop h proper acyclic responsive hid
  have ended' : last'.result? id = some (.skipped id (s'.reasonByListing id)) :=
    halted'.result?_loop h' proper' acyclic' responsive' (left.symm.subset hid)
  have agree : last.result? id = last'.result? id ↔ s.culprit id = s'.culprit id := by
    rw [ended, ended', Option.some_inj, skipped_eq_iff, reasonByListing_eq_iff]
  have dependencies : s.graph.dependencies id = s'.graph.dependencies id := by
    obtain ⟨i, hi, rfl⟩ := List.mem_map.mp (sub'.subset (left.symm.subset hid))
    rw [graph, graph']
    exact (whole.dependencies_eq_whole distinct distinct' hi).symm
  exact ⟨reasonLeft_congr dependencies same, ended, agree, fun sides => agree.mpr (culprit_congr dependencies same (graph ▸ sides))⟩

end ScheduleState

/-! ## A stop with typing before the tests, and after them

Linting, typing and the tests, which wait for the types. The types are listed before the tests when they are asked for,
and after them when they come along with the tests. Linting is the first to run, on the only slot, and it fails. -/

namespace SampleGate

open ScheduleState

def trio (typesFirst : Bool) : List BoundCheck :=
  let lint := script "lint" [] true
  let types := script "types" [] true
  let tests := script "tests" ["types"] true
  (if typesFirst then [lint, types, tests] else [lint, tests, types]).map fun s => .ofCheck s.toCheck

/-- The run of the three checks, before its first turn. -/
def beforeLint (typesFirst : Bool) : ScheduleState := initial (.ofUnits (trio typesFirst)) (.ofLimit ⟨1, by decide⟩) []

def assignment (typesFirst : Bool) : Assignment := ⟨trio typesFirst, false, true⟩

/-- The run after its first turn, in which linting has failed. -/
def afterLint (typesFirst : Bool) : ScheduleState :=
  ((beforeLint typesFirst).turn (.replay outcome) (assignment typesFirst) []).1

def types : CheckId := ⟨"python", "types"⟩

def tests : CheckId := ⟨"python", "tests"⟩

theorem relisted_trio : (trio false).Perm (trio true) := (List.Perm.swap _ _ []).cons _

theorem distinct_trio : ((trio true).map (·.id)).Nodup := by decide

theorem accepted_trio : DependencyGraph.ofAcyclic (trio true) = .ok (.ofUnits (trio true)) := by decide +kernel

/-- Linting was all that was in flight. -/
theorem halted_afterLint (typesFirst : Bool) :
    Halted (.replay outcome) (assignment typesFirst) (beforeLint typesFirst) [] (afterLint typesFirst) := by
  have stopped : (afterLint typesFirst).stopped = true := by cases typesFirst <;> decide +kernel
  have idle : (afterLint typesFirst).running = [] := by cases typesFirst <;> decide +kernel
  have going : (beforeLint typesFirst).isOver = false := by cases typesFirst <;> decide +kernel
  exact ⟨stopped, idle, _, .begin (.turn .here going) (.inl stopped)⟩

/-- Only linting has a result, and it is the same in both lists. -/
theorem result?_afterLint (id : CheckId) : (afterLint true).result? id = (afterLint false).result? id := by
  have same : (afterLint true).results = (afterLint false).results := by decide +kernel
  rw [result?, result?, same]

end SampleGate

namespace ScheduleState

open SampleGate

/-- In the run of the three checks that lists the types first, the tests are skipped because of the types, and in the
other one for fail-fast, although the runs have come to the same results. The types are left for fail-fast in both. -/
theorem trio_agrees_on_types :
    let last (typesFirst : Bool) := ((beforeLint typesFirst).loop (.replay outcome) (assignment typesFirst) []).state
    (last true).result? types = (last false).result? types ∧ (last true).result? tests ≠ (last false).result? tests := by
  intro last
  obtain ⟨_, _, _, law⟩ := left_reason_agrees_iff relisted_trio distinct_trio accepted_trio (assignment true)
    (assignment false) ⟨1, by decide⟩ ⟨1, by decide⟩ [] [] [] [] Workers.responsive_replay Workers.responsive_replay
    (halted_afterLint true) (halted_afterLint false) result?_afterLint
  refine ⟨(law types (by decide +kernel)).2.2.1.mpr (by decide +kernel), fun agree => ?_⟩
  exact absurd ((law tests (by decide +kernel)).2.2.1.mp agree) (by decide +kernel)

/-- **The reason depends on the list.** The same checks, stopped with the same results, and the tests are skipped because
of the types in one run and for fail-fast in the other. -/
theorem left_reason_depends_on_listing :
    let last (typesFirst : Bool) := ((beforeLint typesFirst).loop (.replay outcome) (assignment typesFirst) []).state
    (trio false).Perm (trio true) ∧ ((trio true).map (·.id)).Nodup ∧
    DependencyGraph.ofAcyclic (trio true) = .ok (.ofUnits (trio true)) ∧
    (∀ typesFirst, Halted (.replay outcome) (assignment typesFirst) (beforeLint typesFirst) [] (afterLint typesFirst) ∧
      tests ∈ (afterLint typesFirst).pending) ∧
    (∀ id, (afterLint true).result? id = (afterLint false).result? id) ∧
    (last true).result? tests = some (.skipped tests (.dependencyFailed types)) ∧
    (last false).result? tests = some (.skipped tests .failFast) := by
  intro last
  refine ⟨relisted_trio, distinct_trio, accepted_trio, fun typesFirst => ⟨halted_afterLint typesFirst, ?_⟩,
    result?_afterLint, by decide +kernel, by decide +kernel⟩
  cases typesFirst <;> decide +kernel

end ScheduleState

end GateRunner
