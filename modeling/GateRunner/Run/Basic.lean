import GateRunner.Graph.Order
import GateRunner.Schedule.Loop
import GateRunner.WorkingSet.Applicable
import GateRunner.WorkingSet.Switched
import GateRunner.WorkingSet.Closure
import GateRunner.Check.Summary

/-!
# Runs

A run goes from names to a summary: the names are resolved, dependencies come along, what is switched off and what does
not apply is set aside, and the rest is scheduled. `runNamed` is the whole of it, over any workers. The summary lists
the checks that are on in the order of the working set, whatever order they finished in.

A run fails only for a fault of its own, such as a circle of dependencies. How gates come out is in the summary.
-/

namespace GateRunner

/-- The switches of a run: remediation before evaluation, and stopping at the first failure. -/
structure RunSwitches where
  fixFirst : Bool
  failFast : Bool
deriving DecidableEq, Repr

/-- Both switches are on where nothing else is said. -/
def RunSwitches.default : RunSwitches := ⟨true, true⟩

/-- What a run leaves behind: the summary or a fault, what was seen, and the workers as they then were. -/
structure RunReport (σ : Type) where
  outcome : Except RunError RunSummary
  trace : List Event
  world : σ

/-- The results in a given order of checks, each check once. A result of the schedule goes before one from outside. -/
def orderedResults (order : List CheckId) (skipped executed : List CheckResult) : List CheckResult :=
  (CheckId.firstOccurrences order).filterMap fun id =>
    executed.find? (fun r => r.check = id) <|> skipped.reverse.find? (fun r => r.check = id)

/-- What is seen of the checks that are switched off. -/
def switchedOffEvents (off : List WorkingSet.SwitchedOff) : List Event := off.map fun d => .switchedOff d.id d.reason

/-- What is seen of the checks that do not apply. -/
def notApplicableEvents (skipped : List CheckResult) : List Event :=
  skipped.flatMap fun r => [.notApplicable r, .finished r]

/-- What is seen when a schedule begins. -/
def pendingEvents (graph : DependencyGraph) : List Event := [.total graph.size, .pending graph.order]

variable {σ : Type}

/-- Schedules the checks that are on, and summarises them. -/
def runSwitchedOn (w : Workers σ) (limit : SlotLimit) (project : Project) (switches : RunSwitches)
    (units : List BoundCheck) (seen : List Event) (world : σ) : RunReport σ :=
  let order := units.map (·.id)
  let (applicable, skipped) := WorkingSet.splitApplicable project units
  let assignment : Assignment := ⟨applicable, switches.fixFirst, switches.failFast⟩
  let aside := notApplicableEvents skipped
  let world := ScheduleState.tell w assignment world aside
  match DependencyGraph.ofAcyclic applicable with
  | .error e => ⟨.error e, seen ++ aside, world⟩
  | .ok graph =>
    if graph.isEmpty then
      ⟨.ok (.ofResults (orderedResults order skipped []) (w.elapsed world)), seen ++ aside, world⟩
    else
      let world := ScheduleState.tell w assignment world (pendingEvents graph)
      let initial := ScheduleState.initial graph (.ofLimit limit) (seen ++ aside ++ pendingEvents graph)
      let ending := initial.loop w assignment world
      match ending.fault with
      | some e => ⟨.error e, ending.state.trace, ending.world⟩
      | none =>
        let results := orderedResults order skipped ending.state.results
        ⟨.ok (.ofResults results (w.elapsed ending.world)), ending.state.trace, ending.world⟩

/-- Runs the checks that some names stand for, against a project. -/
def runNamed (w : Workers σ) (g : Registry) (limit : SlotLimit) (project : Project) (config : Configuration)
    (names : List String) (switches : RunSwitches) (world : σ) : RunReport σ :=
  let requested := g.select config names
  if requested.isEmpty then ⟨.ok (.empty (w.elapsed world)), [], world⟩
  else
    let (units, off) := WorkingSet.splitSwitched config (WorkingSet.withDependencies g config requested)
    let seen := switchedOffEvents off
    let world := ScheduleState.tell w ⟨[], switches.fixFirst, switches.failFast⟩ world seen
    if units.isEmpty then ⟨.ok (.empty (w.elapsed world)), seen, world⟩
    else runSwitchedOn w limit project switches units seen world

end GateRunner
