import GateRunner.Machine.Step

/-!
# Runs

A run begins with one process, and is at its end when that process is and nobody is left who could still write on the
channels of the run, or when its time is up. Of the processes that can take a step the oldest one takes it; if there is
none, the clock goes on to the time at which one can.
-/

namespace GateRunner.Machine

open Shell

/-- How a run came to its end. -/
inductive RunEnd
  | ended (state : ExitState)
  | late

namespace World

/-- The oldest process that can take a step, with those before it in reverse order and those after it. -/
def pick (w : World) : List Process → List Process → Option (List Process × Process × List Process)
  | _, [] => none
  | before, p :: after => if w.isReady p then some (before, p, after) else w.pick (p :: before) after

/-- The processes with one put in its place by its number. -/
def place (p : Process) : List Process → List Process
  | [] => [p]
  | q :: rest => if p.number < q.number then p :: q :: rest else q :: place p rest

/-- One step of a process that can take one, if there is any. -/
def advance (w : World) : Option World :=
  match w.pick [] w.processes with
  | none => none
  | some (before, p, after) =>
    let (w, p) := step { w with processes := before.reverse ++ after, micros := w.micros + 1 } p
    some { w with processes := place p w.processes }

/-- The time at which a process has something to do again. -/
def nextWake (w : World) : Option Nat := (w.processes.filterMap (·.wake?)).min?

/-- Whether a channel of a process leads to the channels of the run. -/
def reports (w : World) (p : Process) : Bool :=
  p.channels.any fun (_, n) =>
    match w.streams.lookup n with
    | some (.report _) => true
    | _ => false

/-- How the run has ended, if it has, for its first process. -/
def outcome? (w : World) (first : Nat) : Option ExitState :=
  match w.ending? first with
  | some state => if w.processes.any w.reports then none else some state
  | none => none

/-- Goes on until the run has ended or its time is up. -/
def run (first deadline : Nat) : Nat → World → RunEnd × World
  | 0, w => (.late, w)
  | fuel + 1, w =>
    if deadline ≤ w.micros then (.late, w)
    else
      match w.outcome? first with
      | some state => (.ended state, w)
      | none =>
        match w.advance with
        | some w => run first deadline fuel w
        | none =>
          match w.nextWake with
          | some wake => run first deadline fuel { w with micros := max wake w.micros }
          | none => (.late, w)

/-- Lets the processes that are left go on for as long as none of them has to wait. -/
def settle : Nat → World → World
  | 0, w => w
  | fuel + 1, w =>
    match w.advance with
    | some w => settle fuel w
    | none => w

end World

end GateRunner.Machine
