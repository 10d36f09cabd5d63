import GateRunner.Proofs.Schedule.Progress

/-!
# The waits of a run, and its end

A run asks its workers to wait in every turn that leaves something in flight, and after the last turn as long as
something still is. It takes in what they answer there and nothing else.

**The law** (`answered_loop`): a run is a course on which every completed check comes out as the workers answered. And
the run ends as it must: after a failure has stopped it and what was in flight has finished (`Halted`), all that is
still pending is settled there and then, and nothing else happens (`Halted.state_loop`).
-/

namespace GateRunner

namespace ScheduleState

variable {σ : Type}

variable {w : Workers σ} {a : Assignment} {first s t : ScheduleState} {start world : σ}

/-! ## What is completed has been answered -/

theorem Turns.answered (turns : Turns w a first start s world) (h : first.Consistent) :
    ∃ deeds, Course a.failFast first deeds s ∧ ∀ c, .complete c ∈ deeds → Answered w a first start c := by
  induction turns with
  | here => exact ⟨[], .nil first, fun c hc => absurd hc List.not_mem_nil⟩
  | turn before going ih =>
    rename_i s world
    obtain ⟨deeds, course, answered⟩ := ih
    obtain ⟨started, _, dispatched⟩ := (course.consistent h).dispatch_course (going_of_isOver going) a.failFast
    have both := course.append dispatched
    have answered' : ∀ c, .complete c ∈ deeds ++ ((s.blocked.map fun b => .skip b.1 (.dependencyFailed b.2)) ++
        started.map .start) → Answered w a first start c := fun c hc =>
      (List.mem_append.mp hc).elim (answered c) fun hc => absurd hc (complete_not_mem_dispatched _ _ c)
    by_cases idle : s.dispatch.running = []
    · rw [turn_of_idle idle]
      exact ⟨_, both, answered'⟩
    · rw [turn_of_busy idle]
      obtain ⟨taken, sub, _, taking⟩ := absorb_course (both.consistent h) a.failFast
        (w.await (tell w a world (s.dispatch.newsSince s)) s.dispatch.running).1
      refine ⟨_, both.append taking, fun c hc => (List.mem_append.mp hc).elim (answered' c) fun hc => ?_⟩
      exact ⟨_, _, .inTurn before going idle, sub (complete_mem_map.mp hc)⟩

theorem Drains.answered (drains : Drains w a first start s world) (h : first.Consistent) :
    ∃ deeds, Course a.failFast first deeds s ∧ ∀ c, .complete c ∈ deeds → Answered w a first start c := by
  induction drains with
  | begin turns _ => exact turns.answered h
  | wait before busy ih =>
    rename_i s world
    obtain ⟨deeds, course, answered⟩ := ih
    have stopped := (before.carried h).2.resolve_right busy
    obtain ⟨taken, sub, _, taking⟩ := absorb_course (course.consistent h) a.failFast (w.await world s.running).1
    rw [← absorb_of_stopped stopped] at taking
    refine ⟨_, course.append taking, fun c hc => (List.mem_append.mp hc).elim (answered c) fun hc => ?_⟩
    exact ⟨_, _, .atEnd before busy, sub (complete_mem_map.mp hc)⟩

theorem answered_close (drains : Drains w a first start s world) (h : first.Consistent) :
    ∃ deeds, Course a.failFast first deeds (close w a s world).state ∧
      ∀ c, .complete c ∈ deeds → Answered w a first start c := by
  obtain ⟨drained, idle⟩ := drains_drain drains
  obtain ⟨deeds, course, answered⟩ := drained.answered h
  fun_cases close w a s world with
  | case1 => exact ⟨deeds, course, answered⟩
  | case2 drained' going stopped settled =>
    have none : (drain w a s world).fault = none := fault_eq_none_of_not going
    obtain ⟨last, noCompletion, settling, _⟩ :=
      settle_course (course.consistent h) a.failFast stopped (idle none)
    refine ⟨_, course.append settling, fun c hc => (List.mem_append.mp hc).elim (answered c) fun hc => ?_⟩
    exact absurd hc (noCompletion c)
  | case3 => exact ⟨deeds, course, answered⟩

/-- **A run is a course on which every completion has been answered**, in this run. -/
theorem answered_loop (turns : Turns w a first start s world) (h : first.Consistent) :
    ∃ deeds, Course a.failFast first deeds (loop w a s world).state ∧
      ∀ c, .complete c ∈ deeds → Answered w a first start c := by
  obtain ⟨last, now, turns', ⟨atEnd, same⟩ | ⟨e, same⟩⟩ := turns.loop_cases
  · rw [same]
    exact answered_close (.begin turns' atEnd) h
  · rw [same]
    exact turns'.answered h

/-! ## The end of a run that was stopped -/

/-- A run has been stopped by a failure, and comes to this state when what was in flight has finished. -/
structure Halted (w : Workers σ) (a : Assignment) (first : ScheduleState) (start : σ) (s : ScheduleState) : Prop where
  stopped : s.stopped = true
  idle : s.running = []
  drained : ∃ world, Drains w a first start s world

theorem settle_of_pending_nil (none : s.pending = []) : s.settle = s := by
  rw [settle, none, List.foldl_nil, ← none]

/-- One wait that leaves less in flight is all that draining does before it goes on. -/
theorem drain_eq_of_wait (busy : s.running ≠ [])
    (fewer : (s.drainOnce w a world).1.running.length < s.running.length) :
    drain w a s world = drain w a (s.drainOnce w a world).1 (s.drainOnce w a world).2 := by
  conv => lhs; rw [drain, if_neg busy]
  exact dif_pos fewer

/-- With nothing in flight, what a stop has left pending is settled at once. -/
theorem close_state_of_idle (stopped : s.stopped = true) (idle : s.running = []) :
    (close w a s world).state = s.settle := by
  have drained : drain w a s world = ⟨none, s, world⟩ := by rw [drain, if_pos idle]
  rw [close, drained]
  by_cases none : s.pending = []
  · rw [settle_of_pending_nil none]
    exact congrArg Ending.state (if_pos (List.isEmpty_iff.mpr none))
  · have left : ¬ (Option.isSome (Option.none : Option RunError) || s.pending.isEmpty) = true := fun empty =>
      none (List.isEmpty_iff.mp empty)
    simp only [if_neg left, if_pos stopped]

variable (responsive : Responsive w a first start) (h : first.Consistent)
  (closed : ∀ {id d}, first.graph.DependsOn id d → d ∈ first.graph.order) (acyclic : first.graph.Acyclic)
include responsive h closed acyclic

/-- Under workers that answer, the loop takes all turns that there are. -/
theorem Turns.loop_eq (turns : Turns w a first start s world) : loop w a first start = loop w a s world := by
  induction turns with
  | here => rfl
  | turn before going ih =>
    exact ih.trans (loop_eq_of_turn going (before.turn_progress responsive h closed acyclic going))

/-- After a stop, the loop waits for all that is in flight. -/
theorem Drains.loop_eq (drains : Drains w a first start s world) (stopped : s.stopped = true) :
    loop w a first start = close w a s world := by
  induction drains with
  | begin turns _ =>
    rw [turns.loop_eq responsive h closed acyclic]
    exact loop_eq_close (isOver_iff.mpr (.inl stopped))
  | wait before busy ih =>
    rename_i s world
    obtain ⟨carried, atEnd⟩ := before.carried h
    have fewer : (s.drainOnce w a world).1.running.length < s.running.length :=
      ((carried.consistent h).absorb_progress (responsive _ _ (.atEnd before busy))).1
    rw [ih (atEnd.resolve_right busy), close, close, drain_eq_of_wait busy fewer]

/-- **A run that a failure has stopped ends by settling what is still pending** when nothing is in flight any more. -/
theorem Halted.state_loop (halted : Halted w a first start s) : (loop w a first start).state = s.settle := by
  obtain ⟨stopped, idle, world, drains⟩ := halted
  rw [drains.loop_eq responsive h closed acyclic stopped, close_state_of_idle stopped idle]

end ScheduleState

end GateRunner
