import GateRunner.Proofs.Schedule.Turns

/-!
# The states that a run comes to

Six places of the loop move checks: one by one it skips those that are blocked, starts those that are ready and takes in
those that have finished; after its last turn it drains what is in flight; and after a stop it settles what is pending.
It asks its workers to wait at two of these places (`Waits`), and what they answer there has been `Answered` in the run.
This says more than that workers would answer so at some time: it is about this run. `Reachable` are the states that a
run comes to, those in the middle of these included: a part of what a step goes through is a prefix of it. The state in
which a run ends is one of them (`reachable_loop`).

**The law** (`Reachable.course`): whatever state a run comes to, a course leads there, so the state is consistent. In
particular no check gets lost on the way, and none comes up twice.
-/

namespace GateRunner

open scoped List

namespace ScheduleState

variable {σ : Type}

/-- One wait after the last turn: the state after it, and the workers as they then are. -/
def drainOnce (w : Workers σ) (a : Assignment) (s : ScheduleState) (world : σ) : ScheduleState × σ :=
  let answer := w.await world s.running
  let after := s.absorb false answer.1
  (after, tell w a answer.2 (after.newsSince s))

/-- From the state after the last turn to the states between two waits for what is still in flight. -/
inductive Drains (w : Workers σ) (a : Assignment) (first : ScheduleState) (start : σ) : ScheduleState → σ → Prop
  | begin {s : ScheduleState} {world : σ} (turns : Turns w a first start s world)
      (atEnd : s.stopped = true ∨ s.running = []) : Drains w a first start s world
  | wait {s : ScheduleState} {world : σ} (before : Drains w a first start s world) (busy : s.running ≠ []) :
      Drains w a first start (s.drainOnce w a world).1 (s.drainOnce w a world).2

/-- The waits of a run: how the workers are, and what is in flight, whenever they are asked to wait. -/
inductive Waits (w : Workers σ) (a : Assignment) (first : ScheduleState) (start : σ) : σ → List CheckId → Prop
  /-- In a turn, after the dispatch. -/
  | inTurn {s : ScheduleState} {world : σ} (turns : Turns w a first start s world) (going : s.isOver = false)
      (busy : s.dispatch.running ≠ []) :
      Waits w a first start (tell w a world (s.dispatch.newsSince s)) s.dispatch.running
  /-- After the last turn. -/
  | atEnd {s : ScheduleState} {world : σ} (drains : Drains w a first start s world) (busy : s.running ≠ []) :
      Waits w a first start world s.running

/-- At every wait of a run the workers say of a check in flight that it has finished. -/
def Responsive (w : Workers σ) (a : Assignment) (first : ScheduleState) (start : σ) : Prop :=
  ∀ world inFlight, Waits w a first start world inFlight → ∃ c ∈ (w.await world inFlight).1, c.id ∈ inFlight

/-- At a wait of the run, the workers answered with a completion. -/
def Answered (w : Workers σ) (a : Assignment) (first : ScheduleState) (start : σ) (c : Completion) : Prop :=
  ∃ world inFlight, Waits w a first start world inFlight ∧ c ∈ (w.await world inFlight).1

/-- The states that a run comes to. -/
inductive Reachable (w : Workers σ) (a : Assignment) (first : ScheduleState) (start : σ) : ScheduleState → Prop
  /-- In a turn, some of the blocked checks have been skipped. -/
  | skipping {s : ScheduleState} {world : σ} {part : List (CheckId × CheckId)} (turns : Turns w a first start s world)
      (going : s.isOver = false) (begun : part <+: s.blocked) : Reachable w a first start (s.skipBlocked part)
  /-- All of them have been skipped, and some of the ready checks have been looked at. -/
  | starting {s : ScheduleState} {world : σ} {part : List CheckId} (turns : Turns w a first start s world)
      (going : s.isOver = false) (begun : part <+: s.ready) :
      Reachable w a first start ((s.skipBlocked s.blocked).startReady part)
  /-- The workers have answered, and some of the answer has been taken in. -/
  | takingIn {s : ScheduleState} {world : σ} {part : List Completion} (turns : Turns w a first start s world)
      (going : s.isOver = false) (busy : s.dispatch.running ≠ [])
      (begun : part <+: (w.await (tell w a world (s.dispatch.newsSince s)) s.dispatch.running).1) :
      Reachable w a first start (s.dispatch.absorb a.failFast part)
  /-- After the last turn the workers have answered, and some of the answer has been taken in. -/
  | draining {s : ScheduleState} {world : σ} {part : List Completion} (drains : Drains w a first start s world)
      (busy : s.running ≠ []) (begun : part <+: (w.await world s.running).1) :
      Reachable w a first start (s.absorb false part)
  /-- Nothing is in flight any more. -/
  | drained {s : ScheduleState} {world : σ} (drains : Drains w a first start s world) (idle : s.running = []) :
      Reachable w a first start s
  /-- What a stop has left pending has its results. -/
  | settled {s : ScheduleState} {world : σ} (drains : Drains w a first start s world) (idle : s.running = [])
      (stopped : s.stopped = true) : Reachable w a first start s.settle

variable {w : Workers σ} {a : Assignment} {first s t : ScheduleState} {start world : σ}

/-! ## A course leads to each of them -/

/-- Skipping the first of the blocked checks is a course. -/
theorem Consistent.skip_some (h : s.Consistent) (going : s.stopped = false) (failFast : Bool)
    {part : List (CheckId × CheckId)} (begun : part <+: s.blocked) : ∃ deeds, Course failFast s deeds (s.skipBlocked part) := by
  have distinct : (s.blocked.map (·.1)).Nodup := by
    rw [map_fst_blocked]
    exact h.nodup_pending.sublist List.filter_sublist
  have skipped : Skipped failFast s (s.skipBlocked part) part :=
    skipBlocked_spec h going (distinct.sublist (begun.sublist.map _)) fun b hb => mem_blocked.mp (begun.subset hb)
  exact ⟨_, skipped.course⟩

/-- Starting the first of the ready checks, after the blocked ones have been skipped, is a course. -/
theorem Consistent.start_some (h : s.Consistent) (going : s.stopped = false) (failFast : Bool) {part : List CheckId}
    (begun : part <+: s.ready) : ∃ deeds, Course failFast s deeds ((s.skipBlocked s.blocked).startReady part) := by
  have skipped := h.skipBlocked going failFast
  have distinct : s.ready.Nodup := h.nodup_pending.sublist List.filter_sublist
  obtain ⟨started, _, course⟩ := startReady_course failFast skipped.going (distinct.sublist begun.sublist) fun id hid =>
    h.ready_after_skips going (begun.subset hid)
  exact ⟨_, skipped.course.append course⟩

/-- Between two waits after the last turn, the run has been stopped or nothing is in flight. -/
theorem Drains.carried (drains : Drains w a first start s world) (h : first.Consistent) :
    Carried w a.failFast first s ∧ (s.stopped = true ∨ s.running = []) := by
  induction drains with
  | begin turns atEnd => exact ⟨turns.carried h, atEnd⟩
  | wait _ busy ih =>
    rename_i s world _
    obtain ⟨before, atEnd⟩ := ih
    have stopped := atEnd.resolve_right busy
    have taken := carried_absorb_of_stopped (w := w) (before.consistent h) a.failFast stopped world s.running
    exact ⟨before.trans taken, .inl (taken.stopped (before.consistent h) stopped)⟩

/-- **A course leads to every state that a run comes to.** -/
theorem Reachable.course (reachable : Reachable w a first start t) (h : first.Consistent) :
    ∃ deeds, Course a.failFast first deeds t := by
  cases reachable with
  | skipping turns going begun =>
    obtain ⟨_, course, _⟩ := turns.carried h
    obtain ⟨_, more⟩ := (course.consistent h).skip_some (going_of_isOver going) a.failFast begun
    exact ⟨_, course.append more⟩
  | starting turns going begun =>
    obtain ⟨_, course, _⟩ := turns.carried h
    obtain ⟨_, more⟩ := (course.consistent h).start_some (going_of_isOver going) a.failFast begun
    exact ⟨_, course.append more⟩
  | takingIn turns going busy begun =>
    obtain ⟨_, course, _⟩ := turns.carried h
    obtain ⟨_, _, dispatched⟩ := (course.consistent h).dispatch_course (going_of_isOver going) a.failFast
    have both := course.append dispatched
    obtain ⟨_, _, _, taken⟩ := absorb_course (both.consistent h) a.failFast _
    exact ⟨_, both.append taken⟩
  | draining drains busy begun =>
    obtain ⟨⟨_, course, _⟩, atEnd⟩ := drains.carried h
    obtain ⟨_, _, _, taken⟩ := absorb_course (course.consistent h) a.failFast _
    rw [absorb_of_stopped (atEnd.resolve_right busy)]
    exact ⟨_, course.append taken⟩
  | drained drains idle =>
    obtain ⟨⟨_, course, _⟩, _⟩ := drains.carried h
    exact ⟨_, course⟩
  | settled drains idle stopped =>
    obtain ⟨⟨_, course, _⟩, _⟩ := drains.carried h
    obtain ⟨_, _, settled, _⟩ := settle_course (course.consistent h) a.failFast stopped idle
    exact ⟨_, course.append settled⟩

theorem Waits.ne_nil {inFlight : List CheckId} (waits : Waits w a first start world inFlight) : inFlight ≠ [] := by
  cases waits <;> assumption

theorem Reachable.consistent (reachable : Reachable w a first start t) (h : first.Consistent) : t.Consistent := by
  obtain ⟨_, course⟩ := reachable.course h
  exact course.consistent h

theorem Reachable.graph_eq (reachable : Reachable w a first start t) (h : first.Consistent) : t.graph = first.graph := by
  obtain ⟨_, course⟩ := reachable.course h
  exact course.graph_eq h

/-! ## The end of a run is one of them -/

/-- A state after the last turn is one that the run comes to, before any of the next answer has been taken in. -/
theorem Drains.reachable (drains : Drains w a first start s world) : Reachable w a first start s := by
  by_cases idle : s.running = []
  · exact .drained drains idle
  · exact .draining drains idle List.nil_prefix

/-- A state between two turns is one that the run comes to. -/
theorem Turns.reachable (turns : Turns w a first start s world) : Reachable w a first start s := by
  cases going : s.isOver with
  | true => exact (Drains.begin turns ((isOver_iff.mp going).imp_right And.right)).reachable
  | false => exact .skipping turns going List.nil_prefix

/-- Draining is one wait after the other, until nothing is in flight or the workers have no answer. -/
theorem drains_drain (drains : Drains w a first start s world) :
    Drains w a first start (drain w a s world).state (drain w a s world).world ∧
      ((drain w a s world).fault = none → (drain w a s world).state.running = []) := by
  fun_induction drain w a s world with
  | case1 s world idle => exact ⟨drains, fun _ => idle⟩
  | case2 s world busy batch world' given after world'' fewer ih =>
    have wait := drains.wait busy
    simp only [drainOnce, given] at wait
    exact ih wait
  | case3 s world busy batch world' given after world'' same =>
    have wait := drains.wait busy
    simp only [drainOnce, given] at wait
    exact ⟨wait, fun none => by cases none⟩

theorem reachable_close (drains : Drains w a first start s world) :
    Reachable w a first start (close w a s world).state := by
  obtain ⟨drained, idle⟩ := drains_drain drains
  fun_cases close w a s world with
  | case1 => exact drained.reachable
  | case2 drained' going stopped settled =>
    have none : (drain w a s world).fault = none := fault_eq_none_of_not going
    exact .settled drained (idle none) stopped
  | case3 => exact drained.reachable

/-- A run takes turns up to some last one. Then it is closed, or it breaks off because there was no answer. -/
theorem Turns.loop_cases (turns : Turns w a first start s world) :
    ∃ last now, Turns w a first start last now ∧
      ((last.stopped = true ∨ last.running = []) ∧ loop w a s world = close w a last now ∨
        ∃ e, loop w a s world = ⟨some e, last, now⟩) := by
  fun_induction loop w a s world with
  | case1 s world atEnd => exact ⟨s, world, turns, .inl ⟨(isOver_iff.mp atEnd).imp_right And.right, rfl⟩⟩
  | case2 s world going sent world' idle fewer ih =>
    have next := turns.turn (Bool.eq_false_iff.mpr going)
    rw [turn_of_idle idle] at next
    exact ih next
  | case3 s world going sent world' idle same =>
    have next := turns.turn (Bool.eq_false_iff.mpr going)
    rw [turn_of_idle idle] at next
    exact ⟨sent, world', next, .inl ⟨.inr idle, rfl⟩⟩
  | case4 s world going sent world' busy batch world'' given after world''' fewer ih =>
    have next := turns.turn (Bool.eq_false_iff.mpr going)
    rw [turn_of_answer busy given] at next
    exact ih next
  | case5 s world going sent world' busy batch world'' given after world''' same =>
    have next := turns.turn (Bool.eq_false_iff.mpr going)
    rw [turn_of_answer busy given] at next
    exact ⟨after, world''', next, .inr ⟨_, rfl⟩⟩

/-- **The state in which a run ends is one that it comes to.** -/
theorem reachable_loop (turns : Turns w a first start s world) :
    Reachable w a first start (loop w a s world).state := by
  obtain ⟨last, now, turns', ⟨atEnd, same⟩ | ⟨e, same⟩⟩ := turns.loop_cases
  · rw [same]
    exact reachable_close (.begin turns' atEnd)
  · rw [same]
    exact turns'.reachable

end ScheduleState

end GateRunner
