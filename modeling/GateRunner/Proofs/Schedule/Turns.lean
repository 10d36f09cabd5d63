import GateRunner.Proofs.Schedule.Loop

/-!
# The turns of a run

The loop of a schedule takes turns until nothing is left or a failure has stopped the run: it dispatches, waits, and
takes in what has finished. `ScheduleState.turn` is one turn by itself, without the loop's look at whether it got
anywhere, and `Turns` leads from the state in which a run begins to the states in which its turns begin. As long as a
turn leaves less to do, the loop does nothing but take it (`loop_eq_of_turn`).

Every turn is a course (`carried_turn`), so each state between two turns is consistent.
-/

namespace GateRunner

namespace ScheduleState

variable {σ : Type}

/-- Whether the turns are over: nothing is left to do, or a failure has stopped the run. -/
def isOver (s : ScheduleState) : Bool := s.stopped || (s.pending.isEmpty && s.running.isEmpty)

/-- One turn: the state after it, and the workers as they then are. -/
def turn (w : Workers σ) (a : Assignment) (s : ScheduleState) (world : σ) : ScheduleState × σ :=
  let sent := s.dispatch
  let world := tell w a world (sent.newsSince s)
  if sent.running = [] then (sent, world)
  else
    let answer := w.await world sent.running
    let after := sent.absorb a.failFast answer.1
    (after, tell w a answer.2 (after.newsSince sent))

/-- From the state in which a run begins to the states in which its turns begin, and that in which they are over. -/
inductive Turns (w : Workers σ) (a : Assignment) (first : ScheduleState) (start : σ) : ScheduleState → σ → Prop
  | here : Turns w a first start first start
  | turn {s : ScheduleState} {world : σ} (before : Turns w a first start s world) (going : s.isOver = false) :
      Turns w a first start (s.turn w a world).1 (s.turn w a world).2

variable {w : Workers σ} {a : Assignment} {first s : ScheduleState} {start world : σ}

theorem isOver_iff : s.isOver = true ↔ s.stopped = true ∨ s.pending = [] ∧ s.running = [] := by
  simp only [isOver, Bool.or_eq_true, Bool.and_eq_true, List.isEmpty_iff]

theorem going_of_isOver (going : s.isOver = false) : s.stopped = false := (Bool.or_eq_false_iff.mp going).1

/-- With nothing in flight after the dispatch, a turn is the dispatch alone. -/
theorem turn_of_idle (idle : s.dispatch.running = []) :
    s.turn w a world = (s.dispatch, tell w a world (s.dispatch.newsSince s)) := if_pos idle

/-- With something in flight after the dispatch, a turn takes in what has finished by then. -/
theorem turn_of_busy (busy : s.dispatch.running ≠ []) :
    let answer := w.await (tell w a world (s.dispatch.newsSince s)) s.dispatch.running
    let after := s.dispatch.absorb a.failFast answer.1
    s.turn w a world = (after, tell w a answer.2 (after.newsSince s.dispatch)) := if_neg busy

theorem turn_of_answer (busy : s.dispatch.running ≠ []) {batch : List Completion} {now : σ}
    (given : w.await (tell w a world (s.dispatch.newsSince s)) s.dispatch.running = (batch, now)) :
    s.turn w a world = (s.dispatch.absorb a.failFast batch,
      tell w a now ((s.dispatch.absorb a.failFast batch).newsSince s.dispatch)) := by
  simp only [turn_of_busy busy, given]

/-- A turn is a course: a dispatch, and what the workers have finished then. -/
theorem carried_turn (h : s.Consistent) (going : s.isOver = false) (world : σ) :
    Carried w a.failFast s (s.turn w a world).1 := by
  have dispatched : Carried w a.failFast s s.dispatch := carried_dispatch h (going_of_isOver going)
  by_cases idle : s.dispatch.running = []
  · rw [turn_of_idle idle]
    exact dispatched
  · rw [turn_of_busy idle]
    exact dispatched.trans (carried_absorb (dispatched.consistent h) a.failFast _ _)

/-- **The turns of a run are a course.** -/
theorem Turns.carried (turns : Turns w a first start s world) (h : first.Consistent) :
    Carried w a.failFast first s := by
  induction turns with
  | here => exact ⟨[], .nil first, fun c hc => absurd hc List.not_mem_nil⟩
  | turn _ going ih => exact ih.trans (carried_turn (ih.consistent h) going _)

theorem Turns.consistent (turns : Turns w a first start s world) (h : first.Consistent) : s.Consistent :=
  (turns.carried h).consistent h

/-! ## Turns and the loop -/

/-- A turn that leaves less to do is all that the loop does before it goes on. -/
theorem loop_eq_of_turn (going : s.isOver = false) (fewer : (s.turn w a world).1.remaining < s.remaining) :
    loop w a s world = loop w a (s.turn w a world).1 (s.turn w a world).2 := by
  have going' : ¬ (s.stopped || (s.pending.isEmpty && s.running.isEmpty)) = true := Bool.eq_false_iff.mp going
  conv => lhs; rw [loop, if_neg going']
  by_cases idle : s.dispatch.running = []
  · rw [turn_of_idle idle] at fewer ⊢
    simp only [if_pos idle]
    rw [dif_pos fewer]
  · rw [turn_of_busy idle] at fewer ⊢
    simp only [if_neg idle]
    rw [dif_pos fewer]

/-- Once the turns are over the loop closes the run. -/
theorem loop_eq_close (atEnd : s.isOver = true) : loop w a s world = close w a s world := by
  rw [loop]
  exact if_pos atEnd

end ScheduleState

end GateRunner
