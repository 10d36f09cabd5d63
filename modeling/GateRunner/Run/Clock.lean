import GateRunner.Check.Worker
import GateRunner.Schedule.Loop

/-!
# Workers on a virtual clock

Workers for which time passes only while somebody waits. A check that is handed to them begins when they are next asked
to wait, and its calls take the time it says they take. Waiting jumps to the next instant at which a call ends; all
calls that end at that instant are dealt with, in the order in which they began, and every check that is finished then
is in one batch.

The calls change the project in the order in which they begin. What happens is noted with the time.
-/

namespace GateRunner

/-- What is noted on a virtual clock. -/
inductive Note
  | seen (event : Event)
  | fixing (check : CheckId)
  | executing (check : CheckId)
deriving DecidableEq, Repr

/-- What a worker is doing for a check. -/
inductive Phase
  /-- Remediation, with what it will say. -/
  | fixing (fixed : Bool)
  /-- Evaluation, with what will come of it. -/
  | executing (result : CheckResult)
deriving DecidableEq, Repr

/-- A call under way. -/
structure Task where
  unit : BoundCheck
  measured : Option Extent
  phase : Phase
  due : Nat

/-- The clock with everything under way on it. Tasks stand in the order in which their calls began. -/
structure Clock where
  now : Nat
  project : Project
  queue : List (BoundCheck × Bool)
  tasks : List Task
  notes : List (Nat × Note)

namespace Clock

/-- A clock at zero with a project and nothing under way. -/
def atZero (project : Project) : Clock := ⟨0, project, [], [], []⟩

/-- Notes something with the time. -/
def note (c : Clock) (n : Note) : Clock := { c with notes := c.notes ++ [(c.now, n)] }

/-- Begins the evaluation of a check, after remediation that took so many milliseconds, or none. -/
def beginExecute (c : Clock) (unit : BoundCheck) (fixed : Bool) (measured : Option Extent) (spent : Nat) : Clock :=
  let c := c.note (.executing unit.id)
  let (result, project) := unit.evaluate fixed measured spent c.project
  { c with project, tasks := c.tasks ++ [⟨unit, measured, .executing result, c.now + unit.check.evaluateMillis⟩] }

/-- Begins a check: with remediation if that is wanted and offered. Remediation that takes no time is followed at once
by evaluation. -/
def begin (c : Clock) (unit : BoundCheck) (fixFirst : Bool) : Clock :=
  let measured := unit.measuredExtent c.project
  if unit.attemptsFix fixFirst then
    let c := c.note (.fixing unit.id)
    let (fixed, project) := unit.remediate c.project
    let c := { c with project }
    if unit.check.fixMillis = 0 then c.beginExecute unit fixed measured 0
    else { c with tasks := c.tasks ++ [⟨unit, measured, .fixing fixed, c.now + unit.check.fixMillis⟩] }
  else c.beginExecute unit false measured 0

/-- Begins every check that waits, in order. -/
def beginQueued (c : Clock) : Clock :=
  c.queue.foldl (fun c (unit, fixFirst) => c.begin unit fixFirst) { c with queue := [] }

/-- The next instant at which a call ends. -/
def nextDue (c : Clock) : Option Nat := (c.tasks.map (·.due)).min?

/-- Deals with calls that have ended, in order: remediation is followed by evaluation, and evaluation ends the check. -/
def conclude (c : Clock) : List Task → List Completion × Clock
  | [] => ([], c)
  | task :: rest =>
    match task.phase with
    | .fixing fixed => (c.beginExecute task.unit fixed task.measured task.unit.check.fixMillis).conclude rest
    | .executing result =>
      let (batch, c) := c.conclude rest
      (⟨task.unit.id, result⟩ :: batch, c)

/-- Jumps from instant to instant until a check is finished. Each task has at most two calls, which bounds the jumps. -/
def advance : Nat → Clock → List Completion × Clock
  | 0, c => ([], c)
  | fuel + 1, c =>
    match c.nextDue with
    | none => ([], c)
    | some due =>
      let (ended, going) := c.tasks.partition (fun t => t.due ≤ due)
      let (batch, c) := { c with now := due, tasks := going }.conclude ended
      if batch.isEmpty then advance fuel c else (batch, c)

/-- Begins what waits, and waits until a check is finished. -/
def await (c : Clock) : List Completion × Clock :=
  let c := c.beginQueued
  advance (2 * c.tasks.length + 1) c

/-- The workers on a virtual clock. -/
def workers : Workers Clock where
  observe c event := c.note (.seen event)
  start c unit fixFirst := { c with queue := c.queue ++ [(unit, fixFirst)] }
  await c _ := c.await
  elapsed c := .ofMillis c.now

end Clock

end GateRunner
