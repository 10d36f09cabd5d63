import GateRunner.Proofs.Schedule.Reachable
import Mathlib.Order.WellFounded

/-!
# Runs come to an end

What is left to do and what has a result add up to the number of checks (`Consistent.remaining_add`), so there is less
left by as many checks as got a result. A turn of the loop always gives some check a result. With nothing in flight and
something pending, some pending check has no pending dependency, because there is no circle: it is skipped, or ready,
and then one check is started, because a slot is free. With something in flight, workers that answer finish a check.
So the turns come to an end (`Turns.exists_last`), and the loop never breaks off.

**The law** (`loop_fault_eq_none`): under workers that answer, a run over a graph without a circle ends without a fault,
whatever the switches, the slots and the batches.
-/

namespace GateRunner

namespace ScheduleState

variable {s t : ScheduleState} {failFast : Bool}

/-- What is left to do and what has a result add up to the number of checks. -/
theorem Consistent.remaining_add (h : s.Consistent) : s.remaining + s.results.length = s.graph.order.length := by
  have length := h.parted.length_eq
  simp only [List.length_append, h.recorded, List.length_map] at length
  exact length

/-- There is less left to do by as many checks as got a result. -/
theorem Course.remaining_add {deeds : List Deed} (course : Course failFast s deeds t) (h : s.Consistent) :
    t.remaining + (deeds.filterMap Deed.result?).length = s.remaining := by
  have before := h.remaining_add
  have after := (course.consistent h).remaining_add
  rw [course.graph_eq h, course.results_eq h, List.length_append] at after
  omega

/-! ## A dispatch with nothing in flight -/

/-- **Without a circle, of some pending check it is known what becomes of it**, if nothing is in flight. -/
theorem Consistent.exists_decided (h : s.Consistent) (closed : ∀ {id d}, s.graph.DependsOn id d → d ∈ s.graph.order)
    (acyclic : s.graph.Acyclic) (idle : s.running = []) (left : s.pending ≠ []) :
    ∃ id ∈ s.pending, s.prospect id ≠ .waiting := by
  obtain ⟨first, hfirst⟩ := List.exists_mem_of_ne_nil _ left
  obtain ⟨id, hid, least⟩ := acyclic.wellFounded.has_min {id | id ∈ s.pending} ⟨first, hfirst⟩
  refine ⟨id, hid, fun waiting => ?_⟩
  -- a dependency of a least pending check is not pending, and nothing is in flight, so it has finished
  have all : (s.graph.dependencies id).all (· ∈ s.finished) = true := by
    refine List.all_eq_true.mpr fun d hd => decide_eq_true ?_
    have part := h.parted.mem_iff.mpr (closed hd)
    rw [idle, List.append_nil] at part
    exact (List.mem_append.mp part).resolve_left fun pending => least d pending hd
  rw [prospect, if_pos all] at waiting
  split at waiting <;> cases waiting

theorem mem_running_startReady {id : CheckId} (ids : List CheckId) (running : id ∈ s.running) :
    id ∈ (s.startReady ids).running := by
  induction ids generalizing s with
  | nil => exact running
  | cons other rest ih =>
    rw [startReady]
    split
    · exact ih (List.mem_append_left _ running)
    · exact running

/-- With a slot free, the first of the checks to start is started. -/
theorem running_startReady_ne_nil {ids : List CheckId} (free : s.slots.hasFree = true) (nonempty : ids ≠ []) :
    (s.startReady ids).running ≠ [] := by
  cases ids with
  | nil => exact absurd rfl nonempty
  | cons id rest =>
    rw [startReady, if_pos free]
    exact List.ne_nil_of_mem (mem_running_startReady rest (List.mem_append_right _ List.mem_cons_self))

/-- With nothing in flight and something pending, a dispatch starts a check, or skips one and leaves less to do. -/
theorem Consistent.dispatch_progress (h : s.Consistent) (going : s.stopped = false)
    (closed : ∀ {id d}, s.graph.DependsOn id d → d ∈ s.graph.order) (acyclic : s.graph.Acyclic)
    (idle : s.running = []) (left : s.pending ≠ []) : s.dispatch.running ≠ [] ∨ s.dispatch.remaining < s.remaining := by
  obtain ⟨started, _, course⟩ := h.dispatch_course going true
  have balance := course.remaining_add h
  cases blocked : s.blocked with
  | cons b rest =>
    have skipped : 0 < (((b :: rest).map fun b => Deed.skip b.1 (.dependencyFailed b.2)).filterMap Deed.result?).length :=
      Nat.zero_lt_succ _
    rw [blocked, List.filterMap_append, List.length_append] at balance
    exact .inr (by omega)
  | nil =>
    -- nothing is skipped, so the check whose prospect is known is ready
    obtain ⟨id, hid, decided⟩ := h.exists_decided closed acyclic idle left
    have ready : s.ready ≠ [] := by
      cases prospect : s.prospect id with
      | ready => exact List.ne_nil_of_mem (mem_ready.mpr ⟨hid, prospect⟩)
      | waiting => exact absurd prospect decided
      | barred d => exact absurd (blocked ▸ mem_blocked.mpr ⟨hid, prospect⟩ : (id, d) ∈ []) List.not_mem_nil
    have free : s.slots.hasFree = true := by
      rw [Slots.hasFree, h.slots, idle]
      exact decide_eq_true s.slots.limit.count_pos
    rw [dispatch, blocked]
    exact .inl (running_startReady_ne_nil (s := s) free ready)

/-! ## Taking in what workers answer -/

/-- A batch that names a check in flight leaves less in flight, and less to do. -/
theorem Consistent.absorb_progress (h : s.Consistent) {batch : List Completion}
    (answered : ∃ c ∈ batch, c.id ∈ s.running) :
    (s.absorb failFast batch).running.length < s.running.length ∧
      (s.absorb failFast batch).remaining < s.remaining := by
  obtain ⟨taken, _, nonempty, course⟩ := absorb_course h failFast batch
  have positive : 0 < taken.length := List.length_pos_iff.mpr (nonempty answered)
  have none_started : (taken.map Deed.complete).filterMap Deed.started? = [] := by
    simp only [List.filterMap_map, List.filterMap_eq_nil_iff, Function.comp_apply]
    exact fun _ _ => rfl
  have all_completed : (taken.map Deed.complete).filterMap Deed.completed? = taken.map (·.id) := by
    rw [List.filterMap_map]
    exact List.filterMap_eq_map_iff_forall_eq_some.mpr fun _ _ => rfl
  have all_left : (taken.map Deed.complete).filterMap Deed.result? = taken.map fun c => c.result.under c.id := by
    rw [List.filterMap_map]
    exact List.filterMap_eq_map_iff_forall_eq_some.mpr fun _ _ => rfl
  have inFlight := (course.running_perm h).length_eq
  have balance := course.remaining_add h
  rw [none_started, all_completed, List.append_nil, List.length_append, List.length_map] at inFlight
  rw [all_left, List.length_map] at balance
  exact ⟨by omega, by omega⟩

/-! ## The loop -/

variable {σ : Type} {w : Workers σ} {a : Assignment}

theorem Carried.graph_eq (carried : Carried w failFast s t) (h : s.Consistent) : t.graph = s.graph := by
  obtain ⟨_, course, _⟩ := carried
  exact course.graph_eq h

/-- A dispatch leaves in flight what was in flight. -/
theorem Consistent.idle_of_dispatch (h : s.Consistent) (going : s.stopped = false) (idle : s.dispatch.running = []) :
    s.running = [] := by
  obtain ⟨started, _, course⟩ := h.dispatch_course going true
  have perm := course.running_perm h
  have none_completed : ((s.blocked.map fun b => Deed.skip b.1 (.dependencyFailed b.2)) ++
      started.map Deed.start).filterMap Deed.completed? = [] := by
    simp only [List.filterMap_append, List.filterMap_map, List.append_eq_nil_iff, List.filterMap_eq_nil_iff,
      Function.comp_apply]
    exact ⟨fun _ _ => rfl, fun _ _ => rfl⟩
  rw [none_completed, idle, List.append_nil] at perm
  exact (List.append_eq_nil_iff.mp perm.eq_nil).1

/-- A dispatch leaves no more to do than there was. -/
theorem Consistent.remaining_dispatch_le (h : s.Consistent) (going : s.stopped = false) :
    s.dispatch.remaining ≤ s.remaining := by
  obtain ⟨started, _, course⟩ := h.dispatch_course going true
  have balance := course.remaining_add h
  omega

/-! ## Workers that answer -/

variable {first : ScheduleState} {start world : σ} (responsive : Responsive w a first start) (h : first.Consistent)
include responsive h

/-- Workers that answer finish what is in flight. -/
theorem Drains.drain_fault_eq_none (drains : Drains w a first start s world) : (drain w a s world).fault = none := by
  fun_induction drain w a s world with
  | case1 s world idle => rfl
  | case2 s world busy batch world' given after world'' fewer ih =>
    have wait := drains.wait busy
    simp only [drainOnce, given] at wait
    exact ih wait
  | case3 s world busy batch world' given after world'' same =>
    have answered := responsive _ _ (.atEnd drains busy)
    rw [given] at answered
    exact absurd (((drains.carried h).1.consistent h).absorb_progress answered).1 same

/-- After a stop, or with nothing left to do, the end of a run is no fault. -/
theorem Turns.close_fault_eq_none (turns : Turns w a first start s world) (atEnd : s.isOver = true) :
    (close w a s world).fault = none := by
  have ended := isOver_iff.mp atEnd
  have none := Drains.drain_fault_eq_none responsive h (.begin turns (ended.imp_right And.right))
  fun_cases close w a s world with
  | case1 drained done => exact none
  | case2 drained going stopped settled => rfl
  | case3 drained going stopped =>
    rcases ended with before | ⟨pending, idle⟩
    · have consistent := turns.consistent h
      obtain ⟨carried, _⟩ := carried_drain (w := w) (a := a) consistent false (.inl before) world
      exact absurd (carried.stopped consistent before) stopped
    · have same : drained = ⟨Option.none, s, world⟩ := by
        show drain w a s world = _
        rw [drain, if_pos idle]
      rw [same, pending] at going
      exact absurd (by simp only [Option.isSome_none, List.isEmpty_nil, Bool.or_true]) going

variable (closed : ∀ {id d}, first.graph.DependsOn id d → d ∈ first.graph.order) (acyclic : first.graph.Acyclic)
include closed acyclic

/-- **Every turn leaves less to do**, under workers that answer and without a circle. -/
theorem Turns.turn_progress (turns : Turns w a first start s world) (going : s.isOver = false) :
    (s.turn w a world).1.remaining < s.remaining := by
  have now := turns.consistent h
  have graph := (turns.carried h).graph_eq h
  have going' := going_of_isOver going
  by_cases idle : s.dispatch.running = []
  · -- something was pending, so the dispatch starts a check or leaves less to do
    have idle' := now.idle_of_dispatch going' idle
    have left : s.pending ≠ [] := fun none => Bool.eq_false_iff.mp going (isOver_iff.mpr (.inr ⟨none, idle'⟩))
    rw [turn_of_idle idle]
    exact (now.dispatch_progress going' (graph ▸ closed) (graph ▸ acyclic) idle' left).resolve_left fun busy => busy idle
  · -- the answer leaves less to do than the dispatch did, and that was no more than before
    have dispatched : Carried w true s s.dispatch := carried_dispatch now going'
    have answered := responsive _ _ (.inTurn turns going idle)
    rw [turn_of_busy idle]
    exact Nat.lt_of_lt_of_le ((dispatched.consistent now).absorb_progress answered).2 (now.remaining_dispatch_le going')

/-- **The turns come to an end, and then the loop closes the run.** The induction is on what is left to do. -/
theorem Turns.exists_last (turns : Turns w a first start s world) :
    ∃ last now, Turns w a first start last now ∧ last.isOver = true ∧ loop w a s world = close w a last now := by
  induction left : s.remaining using Nat.strong_induction_on generalizing s world with
  | _ n ih =>
    cases going : s.isOver with
    | true => exact ⟨s, world, turns, going, loop_eq_close going⟩
    | false =>
      have fewer := turns.turn_progress responsive h closed acyclic going
      obtain ⟨last, now, turns', atEnd, same⟩ := ih _ (left ▸ fewer) (turns.turn going) rfl
      exact ⟨last, now, turns', atEnd, (loop_eq_of_turn going fewer).trans same⟩

/-- **Under workers that answer, a run without a circle ends without a fault.** -/
theorem loop_fault_eq_none : (loop w a first start).fault = none := by
  obtain ⟨last, now, turns, atEnd, same⟩ := Turns.here.exists_last responsive h closed acyclic
  rw [same]
  exact turns.close_fault_eq_none responsive h atEnd

end ScheduleState

end GateRunner
