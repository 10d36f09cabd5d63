import GateRunner.Graph.Basic
import GateRunner.Schedule.Event
import GateRunner.Schedule.Slots

/-!
# The state of a schedule

Where a run stands between two looks at its workers: which checks are pending, in flight and finished, which results
there are, which slots are taken, whether a failure has stopped the run, and what has been seen so far.

The steps are functions on this state. `dispatch` skips the pending checks that a dependency keeps from ever running
and starts as many of the ready ones as there are slots, in order. `absorb` takes in what has finished. `settle` gives
a result to every check that a stop has left pending. What finishes when is no part of the state: a schedule is any
sequence of batches of completions, and the steps say what each one does.
-/

namespace GateRunner

/-- A check that was in flight and has finished, with its result. -/
structure Completion where
  id : CheckId
  result : CheckResult
deriving DecidableEq, Repr

/-- Whether a pending check may start. -/
inductive Prospect
  | ready
  /-- A dependency has not finished yet. -/
  | waiting
  /-- All dependencies have finished, and this is the first one that did not pass. -/
  | barred (dependency : CheckId)
deriving DecidableEq, Repr

/-- Where a run stands. -/
structure ScheduleState where
  graph : DependencyGraph
  slots : Slots
  pending : List CheckId
  /-- The checks in flight, in the order in which they were started. -/
  running : List CheckId
  /-- The checks that have finished, in the order in which they did. -/
  finished : List CheckId
  /-- The results, in the order in which they came about. -/
  results : List CheckResult
  stopped : Bool
  trace : List Event
deriving DecidableEq, Repr

namespace ScheduleState

/-- The state in which every check of a graph is pending. -/
def initial (graph : DependencyGraph) (slots : Slots) (trace : List Event) : ScheduleState :=
  { graph, slots, pending := graph.order, running := [], finished := [], results := [], stopped := false, trace }

/-- The result of a check, if there is one yet. -/
def result? (s : ScheduleState) (id : CheckId) : Option CheckResult := s.results.find? (fun r => r.check = id)

/-- Whether a check has a result and did not pass. -/
def didNotPass (s : ScheduleState) (id : CheckId) : Bool := (s.result? id).any (fun r => !r.isPassed)

/-- The first dependency of a check, in the order of declaration, that has a result and did not pass. -/
def blocker (s : ScheduleState) (id : CheckId) : Option CheckId := (s.graph.dependencies id).find? s.didNotPass

/-- Whether a check may start. -/
def prospect (s : ScheduleState) (id : CheckId) : Prospect :=
  if (s.graph.dependencies id).all (· ∈ s.finished) then
    match s.blocker id with
    | some dependency => .barred dependency
    | none => .ready
  else .waiting

/-- Records a result, unless its check has one already. -/
def record (s : ScheduleState) (r : CheckResult) : ScheduleState :=
  if (s.result? r.check).isSome then s
  else
    { s with finished := s.finished ++ [r.check], results := s.results ++ [r], trace := s.trace ++ [.finished r] }

/-- The check is no longer pending. -/
def withdraw (s : ScheduleState) (id : CheckId) : ScheduleState := { s with pending := s.pending.filter (· ≠ id) }

/-- Skips a pending check. -/
def skip (s : ScheduleState) (id : CheckId) (reason : Omission) : ScheduleState :=
  (s.withdraw id).record (.skipped id reason)

/-- Starts a pending check. -/
def start (s : ScheduleState) (id : CheckId) : ScheduleState :=
  { s.withdraw id with
      slots := s.slots.take, running := s.running ++ [id], trace := s.trace ++ [.started id] }

/-- The pending checks that may start, in their order. -/
def ready (s : ScheduleState) : List CheckId := s.pending.filter (fun id => s.prospect id = .ready)

/-- The pending checks that a dependency keeps from running, in their order, each with that dependency. -/
def blocked (s : ScheduleState) : List (CheckId × CheckId) :=
  s.pending.filterMap fun id =>
    match s.prospect id with
    | .barred dependency => some (id, dependency)
    | _ => none

/-- Skips checks, each because of the dependency given with it. -/
def skipBlocked (s : ScheduleState) (blocked : List (CheckId × CheckId)) : ScheduleState :=
  blocked.foldl (fun s (id, dependency) => s.skip id (.dependencyFailed dependency)) s

/-- Starts checks in their order as long as there are slots. -/
def startReady (s : ScheduleState) : List CheckId → ScheduleState
  | [] => s
  | id :: rest => if s.slots.hasFree then (s.start id).startReady rest else s

/-- One look at the pending checks: those that cannot run are skipped, and then the ready ones are started. Who is
which is decided once, before anything changes. -/
def dispatch (s : ScheduleState) : ScheduleState := (s.skipBlocked s.blocked).startReady s.ready

/-- Takes in one completion. Under fail-fast a failure stops the run. The result goes under the id of the check that
was in flight. What was not in flight changes nothing. -/
def takeIn (failFast : Bool) (s : ScheduleState) (c : Completion) : ScheduleState :=
  if c.id ∈ s.running then
    { s with
        slots := s.slots.release, running := s.running.erase c.id,
        stopped := s.stopped || (failFast && c.result.isFailed) }.record { c.result with check := c.id }
  else s

/-- Takes in a batch of completions, one after the other. -/
def absorb (s : ScheduleState) (failFast : Bool) (batch : List Completion) : ScheduleState :=
  batch.foldl (takeIn failFast) s

/-- Why a check that a stop has left pending did not run. -/
def reasonLeft (s : ScheduleState) (id : CheckId) : Omission :=
  match s.blocker id with
  | some dependency => .dependencyFailed dependency
  | none => .failFast

/-- Gives a result to each check that is pending, one after the other. -/
def settle (s : ScheduleState) : ScheduleState :=
  s.pending.foldl (fun s id => s.record (.skipped id (s.reasonLeft id))) { s with pending := [] }

/-- The work that is left: the checks that are pending or in flight. -/
def remaining (s : ScheduleState) : Nat := s.pending.length + s.running.length

end ScheduleState

end GateRunner
