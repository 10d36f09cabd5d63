import GateRunner.Run.Error
import GateRunner.Schedule.State

/-!
# Running a schedule

A schedule is carried out by workers. `Workers` is all that the scheduler knows of them: they are handed checks to
run, they hear what happens, and, asked to wait, they say which of the checks in flight have finished. Everything about
a run that is not decided here is in them, so a statement about all workers is one about every order and every grouping
of completions.

Workers have to answer. Those that name no check in flight when some are end the run with a fault; with all others the
work left grows less with every turn.
-/

namespace GateRunner

/-- Those who carry out checks, with a state of their own. -/
structure Workers (σ : Type) where
  /-- They hear of an event. -/
  observe : σ → Event → σ
  /-- They are handed a check to run, with or without remediation. -/
  start : σ → BoundCheck → (fixFirst : Bool) → σ
  /-- They are asked to wait until at least one of the checks in flight has finished. -/
  await : σ → (inFlight : List CheckId) → List Completion × σ
  /-- The time since the run began. -/
  elapsed : σ → Duration

/-- What the scheduler needs to know of a run apart from its state. -/
structure Assignment where
  units : List BoundCheck
  fixFirst : Bool
  failFast : Bool

/-- The bound check of an id, the last one if there are several. -/
def Assignment.unit? (a : Assignment) (id : CheckId) : Option BoundCheck :=
  a.units.reverse.find? (fun i => i.id = id)

/-- How a schedule ended: with a fault or without, in which state, and with the workers as they then were. -/
structure Ending (σ : Type) where
  fault : Option RunError
  state : ScheduleState
  world : σ

namespace ScheduleState

variable {σ : Type}

/-- Tells the workers what has happened, and hands over the checks that have started. -/
def tell (w : Workers σ) (a : Assignment) (world : σ) (news : List Event) : σ :=
  news.foldl (fun world event =>
    let world := w.observe world event
    match event.started?.bind a.unit? with
    | some unit => w.start world unit a.fixFirst
    | none => world) world

/-- What has happened between two states. -/
def newsSince (after before : ScheduleState) : List Event := after.trace.drop before.trace.length

/-- Lets the workers finish what is in flight. Nothing starts any more. -/
def drain (w : Workers σ) (a : Assignment) (s : ScheduleState) (world : σ) : Ending σ :=
  if s.running = [] then ⟨none, s, world⟩
  else
    let (batch, world) := w.await world s.running
    let after := s.absorb false batch
    let world := tell w a world (after.newsSince s)
    if _h : after.running.length < s.running.length then drain w a after world
    else ⟨some (.unanswered s.running), after, world⟩
termination_by s.running.length

/-- What follows the last turn: the checks in flight finish, and those left pending by a stop get a result. -/
def close (w : Workers σ) (a : Assignment) (s : ScheduleState) (world : σ) : Ending σ :=
  let drained := drain w a s world
  if drained.fault.isSome || drained.state.pending.isEmpty then drained
  else if drained.state.stopped then
    let settled := drained.state.settle
    ⟨none, settled, tell w a drained.world (settled.newsSince drained.state)⟩
  else ⟨some (.stalled drained.state.pending), drained.state, drained.world⟩

/-- Takes turns until nothing is left or a failure stops the run: dispatch, wait, take in. -/
def loop (w : Workers σ) (a : Assignment) (s : ScheduleState) (world : σ) : Ending σ :=
  if s.stopped || (s.pending.isEmpty && s.running.isEmpty) then close w a s world
  else
    let sent := s.dispatch
    let world := tell w a world (sent.newsSince s)
    if sent.running = [] then
      if _h : sent.remaining < s.remaining then loop w a sent world else close w a sent world
    else
      let (batch, world) := w.await world sent.running
      let after := sent.absorb a.failFast batch
      let world := tell w a world (after.newsSince sent)
      if _h : after.remaining < s.remaining then loop w a after world
      else ⟨some (.unanswered sent.running), after, world⟩
termination_by s.remaining

end ScheduleState

end GateRunner
