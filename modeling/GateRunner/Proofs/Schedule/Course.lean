import GateRunner.Proofs.Graph.Expected
import GateRunner.Schedule.State
import Mathlib.Data.List.Perm.Basic

/-!
# Courses of a schedule

What the scheduler does comes in three kinds of deeds: it skips a pending check, it starts one, and it takes in a check
in flight that has finished. `ScheduleState.Allows` says when each may be done, and `ScheduleState.after` what it leaves
behind. A `Course` is any sequence of allowed deeds from one state to another. Slots, order and batches are in it only
as far as they decide which deed comes next, so what holds after every course holds in every state of every run.

A deed says where a result comes from: a check that is skipped gets its result from the scheduler, one that is completed
gets it from its worker. The trace of a course is what is seen of its deeds, one event for each.

**The invariant** (`Consistent`): every check of the graph is pending, in flight or finished, and only one of these; the
checks with a result are those that have finished; a slot is taken for each check in flight; and what a check in flight,
or one that passed, depends on has passed.
-/

namespace GateRunner

open scoped List

/-- One thing that the scheduler does. -/
inductive Deed
  /-- A pending check gets a result without being run. -/
  | skip (check : CheckId) (reason : Omission)
  /-- A pending check is handed to a worker. -/
  | start (check : CheckId)
  /-- The result of a check in flight is taken in. -/
  | complete (completion : Completion)
deriving DecidableEq, Repr

/-- What is seen of a deed. -/
def Deed.event : Deed → Event
  | .skip id reason => .finished (.skipped id reason)
  | .start id => .started id
  | .complete c => .finished (c.result.under c.id)

/-- The result that a deed leaves behind. -/
def Deed.result? (deed : Deed) : Option CheckResult := deed.event.finished?

namespace ScheduleState

/-- The state after a deed. -/
def after (failFast : Bool) (s : ScheduleState) : Deed → ScheduleState
  | .skip id reason => s.skip id reason
  | .start id => s.start id
  | .complete c => s.takeIn failFast c

/-- The deeds that may come next. -/
inductive Allows (s : ScheduleState) : Deed → Prop
  /-- All dependencies have finished, and one of them did not pass. -/
  | barred {id dependency : CheckId} (pending : id ∈ s.pending) (going : s.stopped = false)
      (barred : s.prospect id = .barred dependency) : Allows s (.skip id (.dependencyFailed dependency))
  /-- All dependencies have passed, and there is a slot. -/
  | ready {id : CheckId} (pending : id ∈ s.pending) (going : s.stopped = false) (free : s.slots.hasFree = true)
      (ready : s.prospect id = .ready) : Allows s (.start id)
  /-- The check is in flight. -/
  | inFlight {c : Completion} (running : c.id ∈ s.running) : Allows s (.complete c)
  /-- The run was stopped, and everything in flight has finished. -/
  | left {id : CheckId} (pending : id ∈ s.pending) (stopped : s.stopped = true) (idle : s.running = []) :
      Allows s (.skip id (s.reasonLeft id))

/-- Allowed deeds, one after the other, from a state to a state. -/
inductive Course (failFast : Bool) : ScheduleState → List Deed → ScheduleState → Prop
  | nil (s : ScheduleState) : Course failFast s [] s
  | cons {s t : ScheduleState} {deed : Deed} {deeds : List Deed} (allowed : s.Allows deed)
      (rest : Course failFast (s.after failFast deed) deeds t) : Course failFast s (deed :: deeds) t

/-- **Why a check may be skipped**: a dependency bars it while the run goes on, or a stop has left it. -/
theorem Allows.skip_cases {s : ScheduleState} {id : CheckId} {reason : Omission} (allowed : s.Allows (.skip id reason)) :
    id ∈ s.pending ∧
      ((s.stopped = false ∧ ∃ d, s.prospect id = .barred d ∧ reason = .dependencyFailed d) ∨
        (s.stopped = true ∧ s.running = [] ∧ reason = s.reasonLeft id)) := by
  generalize e : Deed.skip id reason = deed at allowed
  cases allowed with
  | barred pending going barred =>
    cases e
    exact ⟨pending, .inl ⟨going, _, barred, rfl⟩⟩
  | left pending stopped idle =>
    cases e
    exact ⟨pending, .inr ⟨stopped, idle, rfl⟩⟩
  | _ => cases e

namespace Course

variable {failFast : Bool} {s m t : ScheduleState} {before after : List Deed} {deed : Deed}

theorem single (allowed : s.Allows deed) : Course failFast s [deed] (s.after failFast deed) := .cons allowed (.nil _)

theorem append (first : Course failFast s before m) (rest : Course failFast m after t) :
    Course failFast s (before ++ after) t := by
  induction first with
  | nil => exact rest
  | cons allowed _ ih => exact .cons allowed (ih rest)

/-- A course stops over wherever its deeds are split. -/
theorem split (course : Course failFast s (before ++ after) t) :
    ∃ m, Course failFast s before m ∧ Course failFast m after t := by
  induction before generalizing s with
  | nil => exact ⟨s, .nil s, course⟩
  | cons deed before ih =>
    cases course with
    | cons allowed rest =>
      obtain ⟨m, first, second⟩ := ih rest
      exact ⟨m, .cons allowed first, second⟩

/-- **A property that every allowed deed keeps holds after a course.** -/
theorem keeps {Keeps : ScheduleState → Prop} (course : Course failFast s before t) (start : Keeps s)
    (step : ∀ {u : ScheduleState} {deed : Deed}, Keeps u → u.Allows deed → Keeps (u.after failFast deed)) : Keeps t := by
  induction course with
  | nil => exact start
  | cons allowed _ ih => exact ih (step start allowed)

end Course

/-! ## What is known of results -/

/-- A check has a result, and passed. -/
def HasPassed (s : ScheduleState) (id : CheckId) : Prop := ∃ r ∈ s.results, r.check = id ∧ r.isPassed = true

theorem result?_eq_none_iff {s : ScheduleState} {id : CheckId} :
    s.result? id = none ↔ id ∉ s.results.map (·.check) := by
  simp only [result?, List.find?_eq_none, decide_eq_true_eq, List.mem_map, not_exists, not_and]

theorem mem_of_result? {s : ScheduleState} {id : CheckId} {r : CheckResult} (h : s.result? id = some r) :
    r ∈ s.results ∧ r.check = id :=
  ⟨List.mem_of_find?_eq_some h, by simpa only [decide_eq_true_eq] using List.find?_some h⟩

/-- With one more result, what has passed is what had and, if it says so, its own check. -/
theorem hasPassed_snoc {s t : ScheduleState} {r : CheckResult} (grown : t.results = s.results ++ [r]) {id : CheckId} :
    t.HasPassed id ↔ s.HasPassed id ∨ r.check = id ∧ r.isPassed = true := by
  simp only [HasPassed, grown, List.mem_append, List.mem_singleton, or_and_right, exists_or, exists_eq_left]

/-- Recording the result of a check that has none. -/
theorem record_of_fresh {s : ScheduleState} {r : CheckResult} (fresh : s.result? r.check = none) :
    s.record r =
      { s with
          finished := s.finished ++ [r.check], results := s.results ++ [r], trace := s.trace ++ [.finished r] } := by
  rw [record, fresh]
  rfl

/-- What bars a check is its blocker, once all that it depends on has finished. -/
theorem blocker_of_barred {s : ScheduleState} {id d : CheckId} (barred : s.prospect id = .barred d) :
    s.blocker id = some d ∧ ∀ other, s.graph.DependsOn id other → other ∈ s.finished := by
  unfold prospect at barred
  split at barred
  · rename_i all
    refine ⟨?_, fun other dep => by simpa only [decide_eq_true_eq] using List.all_eq_true.mp all other dep⟩
    cases found : s.blocker id with
    | none => simp only [found, reduceCtorEq] at barred
    | some other =>
      simp only [found, Prospect.barred.injEq] at barred
      rw [barred]
  · cases barred

/-- A check that did not pass has a result that says so. -/
theorem result?_of_didNotPass {s : ScheduleState} {id : CheckId} (missed : s.didNotPass id = true) :
    ∃ r, s.result? id = some r ∧ r.isPassed = false := by
  obtain ⟨r, found, failed⟩ := (Option.any_eq_true _ _).mp missed
  exact ⟨r, found, by simpa only [Bool.not_eq_true'] using failed⟩

/-- What a ready check depends on has passed, if what has finished has a result. -/
theorem hasPassed_of_ready {s : ScheduleState} (recorded : s.finished = s.results.map (·.check)) {id d : CheckId}
    (ready : s.prospect id = .ready) (dep : s.graph.DependsOn id d) : s.HasPassed d := by
  unfold prospect at ready
  split at ready
  · rename_i all
    have finished : d ∈ s.finished := by simpa only [decide_eq_true_eq] using List.all_eq_true.mp all d dep
    cases unblocked : s.blocker id with
    | some other => simp only [unblocked, reduceCtorEq] at ready
    | none =>
      cases found : s.result? d with
      | none => exact absurd (recorded ▸ finished) (result?_eq_none_iff.mp found)
      | some r =>
        have ok := List.find?_eq_none.mp unblocked d dep
        simp only [didNotPass, found, Option.any_some, Bool.not_eq_true', Bool.not_eq_false] at ok
        exact ⟨r, (mem_of_result? found).1, (mem_of_result? found).2, ok⟩
  · cases ready

/-! ## The invariant -/

/-- What holds of every state of a run. -/
structure Consistent (s : ScheduleState) : Prop where
  /-- The checks of the graph are distinct. -/
  distinct : s.graph.order.Nodup
  /-- Every check is pending, in flight or finished, and only one of these. -/
  parted : (s.pending ++ s.running ++ s.finished).Perm s.graph.order
  /-- The checks that have finished are those with a result. -/
  recorded : s.finished = s.results.map (·.check)
  /-- A slot is taken for each check in flight. -/
  slots : s.slots.active = s.running.length
  bounded : s.slots.active ≤ s.slots.limit.count
  /-- A check is in flight only when all it depends on has passed. -/
  inFlight : ∀ id ∈ s.running, ∀ d, s.graph.DependsOn id d → s.HasPassed d
  passed : ∀ id, s.HasPassed id → ∀ d, s.graph.DependsOn id d → s.HasPassed d

theorem consistent_initial {graph : DependencyGraph} (distinct : graph.order.Nodup) (limit : SlotLimit)
    (trace : List Event) : (initial graph (.ofLimit limit) trace).Consistent where
  distinct := distinct
  parted := by simp only [initial, List.append_nil, List.Perm.refl]
  recorded := rfl
  slots := rfl
  bounded := Nat.zero_le _
  inFlight id hid := absurd hid List.not_mem_nil
  passed id hid := by
    obtain ⟨r, hr, _⟩ := hid
    exact absurd hr List.not_mem_nil

namespace Consistent

variable {s : ScheduleState} (h : s.Consistent)
include h

theorem nodup : (s.pending ++ s.running ++ s.finished).Nodup := h.parted.nodup_iff.mpr h.distinct

theorem nodup_pending : s.pending.Nodup := (List.nodup_append.mp (List.nodup_append.mp h.nodup).1).1

theorem nodup_running : s.running.Nodup := (List.nodup_append.mp (List.nodup_append.mp h.nodup).1).2.1

theorem nodup_finished : s.finished.Nodup := (List.nodup_append.mp h.nodup).2.1

theorem pending_not_running {id : CheckId} (hid : id ∈ s.pending) : id ∉ s.running := fun mem =>
  (List.nodup_append.mp (List.nodup_append.mp h.nodup).1).2.2 id hid id mem rfl

theorem pending_not_finished {id : CheckId} (hid : id ∈ s.pending) : id ∉ s.finished := fun mem =>
  (List.nodup_append.mp h.nodup).2.2 id (List.mem_append_left _ hid) id mem rfl

theorem running_not_finished {id : CheckId} (hid : id ∈ s.running) : id ∉ s.finished := fun mem =>
  (List.nodup_append.mp h.nodup).2.2 id (List.mem_append_right _ hid) id mem rfl

theorem result?_eq_none {id : CheckId} (hid : id ∉ s.finished) : s.result? id = none :=
  result?_eq_none_iff.mpr (h.recorded ▸ hid)

theorem exists_result {id : CheckId} (hid : id ∈ s.finished) : ∃ r, s.result? id = some r := by
  cases found : s.result? id with
  | none => exact absurd (h.recorded ▸ hid) (result?_eq_none_iff.mp found)
  | some r => exact ⟨r, rfl⟩

/-- A result on record is the one that is found under its check. -/
theorem result?_of_mem {r : CheckResult} (hr : r ∈ s.results) : s.result? r.check = some r :=
  CheckId.find?_of_nodup (h.recorded ▸ h.nodup_finished) hr

/-- Skipping takes a check from the pending ones to the finished ones. -/
theorem skip_eq {id : CheckId} (hid : id ∈ s.pending) (reason : Omission) :
    s.skip id reason =
      { s with
          pending := s.pending.filter (· ≠ id), finished := s.finished ++ [id],
          results := s.results ++ [.skipped id reason],
          trace := s.trace ++ [.finished (.skipped id reason)] } := by
  have fresh : (s.withdraw id).result? id = none := h.result?_eq_none (h.pending_not_finished hid)
  exact record_of_fresh (r := .skipped id reason) fresh

/-- Taking in takes a check from those in flight to the finished ones, with the result of its worker. -/
theorem takeIn_eq {c : Completion} (hid : c.id ∈ s.running) (failFast : Bool) :
    s.takeIn failFast c =
      { s with
          slots := s.slots.release, running := s.running.erase c.id,
          stopped := s.stopped || (failFast && c.result.isFailed), finished := s.finished ++ [c.id],
          results := s.results ++ [c.result.under c.id],
          trace := s.trace ++ [.finished (c.result.under c.id)] } := by
  have fresh : s.result? c.id = none := h.result?_eq_none (h.running_not_finished hid)
  rw [takeIn, if_pos hid]
  exact record_of_fresh (r := c.result.under c.id) fresh

/-- Without one check, the pending ones are those that are left. -/
theorem perm_withdraw {id : CheckId} (hid : id ∈ s.pending) : s.pending.Perm (id :: s.pending.filter (· ≠ id)) := by
  have same : s.pending.filter (· ≠ id) = s.pending.erase id := by
    rw [h.nodup_pending.erase_eq_filter]
    exact List.filter_congr fun other _ => by by_cases e : other = id <;> simp [e]
  rw [same]
  exact List.perm_cons_erase hid

/-- A skipped check did not pass, so nothing else changes. -/
theorem after_skip {id : CheckId} (hid : id ∈ s.pending) (reason : Omission) : (s.skip id reason).Consistent := by
  rw [h.skip_eq hid]
  have passed : ∀ other, HasPassed { s with
      pending := s.pending.filter (· ≠ id), finished := s.finished ++ [id],
      results := s.results ++ [.skipped id reason],
      trace := s.trace ++ [.finished (.skipped id reason)] } other ↔ s.HasPassed other := fun other =>
    (hasPassed_snoc (s := s) (r := .skipped id reason) rfl).trans (by simp)
  have parted : (s.pending.filter (· ≠ id) ++ s.running ++ (s.finished ++ [id])).Perm s.graph.order :=
    calc s.pending.filter (· ≠ id) ++ s.running ++ (s.finished ++ [id])
      _ = s.pending.filter (· ≠ id) ++ s.running ++ s.finished ++ [id] := by rw [List.append_assoc _ s.finished]
      _ ~ id :: (s.pending.filter (· ≠ id) ++ s.running ++ s.finished) := List.perm_append_singleton _ _
      _ = id :: s.pending.filter (· ≠ id) ++ s.running ++ s.finished := rfl
      _ ~ s.pending ++ s.running ++ s.finished := ((h.perm_withdraw hid).symm.append_right _).append_right _
      _ ~ s.graph.order := h.parted
  refine ⟨h.distinct, parted, ?_, h.slots, h.bounded, fun other hother d dep => ?_, fun other hother d dep => ?_⟩
  · simp only [h.recorded, List.map_append, List.map_cons, List.map_nil, CheckResult.check_skipped]
  · exact (passed d).mpr (h.inFlight other hother d dep)
  · exact (passed d).mpr (h.passed other ((passed other).mp hother) d dep)

/-- A ready check goes in flight with all it depends on passed. -/
theorem after_start {id : CheckId} (hid : id ∈ s.pending) (free : s.slots.hasFree = true)
    (ready : s.prospect id = .ready) : (s.start id).Consistent where
  distinct := h.distinct
  parted :=
    calc s.pending.filter (· ≠ id) ++ (s.running ++ [id]) ++ s.finished
      _ = s.pending.filter (· ≠ id) ++ s.running ++ id :: s.finished := by simp only [List.append_assoc, List.singleton_append]
      _ ~ id :: (s.pending.filter (· ≠ id) ++ s.running ++ s.finished) := List.perm_middle
      _ = id :: s.pending.filter (· ≠ id) ++ s.running ++ s.finished := rfl
      _ ~ s.pending ++ s.running ++ s.finished := ((h.perm_withdraw hid).symm.append_right _).append_right _
      _ ~ s.graph.order := h.parted
  recorded := h.recorded
  slots := by simp only [start, Slots.take, List.length_append, List.length_singleton, h.slots]
  bounded := of_decide_eq_true free
  inFlight other hother d dep := by
    rcases List.mem_append.mp hother with hother | hother
    · exact h.inFlight other hother d dep
    · rw [List.mem_singleton.mp hother] at dep
      exact hasPassed_of_ready h.recorded ready dep
  passed := h.passed

/-- The result of a check in flight is recorded, and its slot is free again. -/
theorem after_complete {c : Completion} (hid : c.id ∈ s.running) (failFast : Bool) :
    (s.takeIn failFast c).Consistent := by
  rw [h.takeIn_eq hid]
  have length : (s.running.erase c.id).length + 1 = s.running.length := by
    rw [List.length_erase_of_mem hid]
    exact Nat.sub_add_cancel (List.length_pos_of_mem hid)
  have parted : (s.pending ++ s.running.erase c.id ++ (s.finished ++ [c.id])).Perm s.graph.order :=
    calc s.pending ++ s.running.erase c.id ++ (s.finished ++ [c.id])
      _ = s.pending ++ s.running.erase c.id ++ s.finished ++ [c.id] := by rw [List.append_assoc _ s.finished]
      _ ~ c.id :: (s.pending ++ s.running.erase c.id ++ s.finished) := List.perm_append_singleton _ _
      _ ~ s.pending ++ (c.id :: s.running.erase c.id) ++ s.finished := by
        simp only [List.append_assoc, List.cons_append]
        exact List.perm_middle.symm
      _ ~ s.pending ++ s.running ++ s.finished := ((List.perm_cons_erase hid).symm.append_left _).append_right _
      _ ~ s.graph.order := h.parted
  refine ⟨h.distinct, parted, ?_, ?_, ?_, fun other hother d dep => ?_, fun other hother d dep => ?_⟩
  · simp only [h.recorded, List.map_append, List.map_cons, List.map_nil, CheckResult.check_under]
  · simp only [Slots.release, h.slots]
    omega
  · exact Nat.le_trans (Nat.sub_le _ _) h.bounded
  · exact (hasPassed_snoc rfl).mpr (.inl (h.inFlight other (List.mem_of_mem_erase hother) d dep))
  · refine (hasPassed_snoc rfl).mpr (.inl ?_)
    rcases (hasPassed_snoc (s := s) rfl).mp hother with hother | ⟨e, _⟩
    · exact h.passed other hother d dep
    · subst e
      exact h.inFlight c.id hid d dep

/-- **Every allowed deed keeps the invariant.** -/
theorem step {deed : Deed} (allowed : s.Allows deed) (failFast : Bool) : (s.after failFast deed).Consistent := by
  cases allowed with
  | barred pending _ _ => exact h.after_skip pending _
  | ready pending _ free ready => exact h.after_start pending free ready
  | inFlight running => exact h.after_complete running failFast
  | left pending _ _ => exact h.after_skip pending _

end Consistent

/-- The invariant holds wherever a course leads. -/
theorem Course.consistent {failFast : Bool} {s t : ScheduleState} {deeds : List Deed} (course : Course failFast s deeds t)
    (h : s.Consistent) : t.Consistent :=
  course.keeps h fun consistent allowed => consistent.step allowed failFast

end ScheduleState

end GateRunner
