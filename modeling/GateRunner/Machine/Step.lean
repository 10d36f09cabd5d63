import GateRunner.Machine.Continuation

/-!
# Steps

One step of a process, and when a process can take one at all. Whoever writes into a full pipe, reads from an empty one,
sleeps or waits for others has to let the others go on.
-/

namespace GateRunner.Machine

open Shell

/-- The signal that ends who writes where nobody reads. -/
def brokenPipe : Nat := 13

/-- Whether somebody waits for more to come out of a pipe than is in it. -/
def World.isAwaited (w : World) (pipe : Nat) : Bool :=
  w.processes.any fun p =>
    match w.stream? p 0 with
    | some (_, .intake n) =>
      n = pipe && (match p.focus with
        | .acting (.read taken _) => (w.read p taken).isNone
        | .acting (.line _) => (w.readLine p).isNone
        | _ => false)
    | _ => false

/-- Whether a process can take a step. -/
def World.isReady (w : World) (p : Process) : Bool :=
  match p.focus with
  | .ended _ => false
  | .asleep wake _ => wake ≤ w.micros
  | .blocked pipe _ => !((w.pipes.lookup pipe).any (·.isFull)) || !w.hasReader pipe || w.isAwaited pipe
  | .awaiting numbers purpose =>
    let allOver := numbers.all w.isOver
    match purpose with
    | .command => allOver
    | .output channel _ =>
      allOver && (match w.stream? p channel with
        | some (_, .intake pipe) => !w.hasWriter pipe
        | _ => true)
    | .jobs | .named _ => allOver || !p.pending.isEmpty
  | .launched number limit overdue _ => w.isOver number || (!overdue && limit.any (·.1 ≤ w.micros))
  | .acting (.read taken _) => (w.read p taken).isSome
  | .acting (.line _) => (w.readLine p).isSome
  | _ => true

/-- The time at which a process has something to do again by itself. -/
def Process.wake? (p : Process) : Option Nat :=
  match p.focus with
  | .asleep wake _ => some wake
  | .launched _ (some (wake, _)) false _ => some wake
  | _ => none

/-! ## Waiting -/

/-- The process after it has told of those it waited for that were ended by a signal. -/
def World.tell (w : World) (p : Process) (numbers : List Nat) : World :=
  let lines := numbers.filterMap fun n =>
    match w.ending? n with
    | some (.signal signal) => if signalText signal = "" then none else some (signalText signal)
    | _ => none
  match w.write p 2 (ofLines lines) with
  | .done told | .full _ told => told
  | .broken | .closed => w

/-- The session in which all jobs that are over have been noticed. -/
def World.notice (w : World) (s : Session) : Session :=
  { s with jobs := s.jobs.map fun job => { job with noticed := job.noticed || job.processes.all w.isOver } }

/-- The status of a process that has ended. -/
def World.statusOf (w : World) (number : Nat) : Nat := ((w.ending? number).map (·.status)).getD 127

/-- Goes on when what was waited for has come. -/
def endWait (w : World) (p : Process) (numbers : List Nat) : Waiting → World × Process
  | .command =>
    let w := w.tell p numbers
    let status := (numbers.getLast?.map w.statusOf).getD 0
    (w.forget numbers, (p.withSession (w.notice p.session)).comeWith status)
  | .output channel job =>
    let text := match w.stream? p channel with
      | some (_, .intake pipe) => String.ofList ((w.pipes.lookup pipe).getD (.empty false)).held
      | _ => ""
    let w := w.tell p numbers
    let status := (numbers.getLast?.map w.statusOf).getD 0
    let p := p.withSession (w.notice p.session)
    let (w, p) := (w.forget numbers).lead p channel none
    (w, p.facing (.expanding { job with answers := job.answers ++ [⟨text, status⟩] }))
  | .jobs =>
    match p.pending.head? with
    | some signal =>
      if numbers.all w.isOver then (w, (p.withSession { p.session with jobs := [] }).comeWith 0)
      else (w, p.comeWith (128 + signal))
    | none => (w, (p.withSession { p.session with jobs := [] }).comeWith 0)
  | .named status =>
    match p.pending.head?, numbers.all w.isOver with
    | some signal, false => (w, p.comeWith (128 + signal))
    | _, _ =>
      let known (n : Nat) : Bool := p.session.jobs.any fun job => job.noticed && job.processes.contains n
      let w := w.tell p (numbers.filter (!known ·))
      let status := status.getD ((numbers.getLast?.map w.statusOf).getD 127)
      (w, (p.withSession (w.notice p.session)).comeWith status)

/-! ## Acting -/

/-- How long writing the same again and again takes for each time it is done, in microseconds, and how many characters
are written at a time. -/
def floodMicros : Nat := 1000

/-- How much is written at a time of a text that is written again and again. -/
def floodSize : Nat := 8192

/-- Goes on after a text was to be written. -/
def afterWriting (w : World) (p : Process) (channel : Nat) (next : Action Reply) : World.Written → World × Process
  | .done w => (w, p.act next)
  | .full pipe w => (w, p.facing (.blocked pipe next))
  | .broken => if p.ignored.contains brokenPipe then (w, p.act next) else w.finish p (.signal brokenPipe)
  | .closed => (w, { p with lost := p.lost || channel = 1 }.act next)

/-- A program of its own for an order, for which the process waits. -/
def startOrder (w : World) (p : Process) (order : Order) (next : Ran → Action Reply) : World × Process :=
  match obey w (w.split p) true order with
  | .error e => (w, p.act (next (.notStarted e)))
  | .ok child =>
    let w := w.add child
    let limit := order.limit.map fun (micros, signal) => (w.micros + micros, signal)
    (w, p.facing (.launched child.number limit false next))

/-- One step of an action. -/
def actOn (w : World) (p : Process) : Action Reply → World × Process
  | .done (.came s) => (w, (p.withSession s).facing .came)
  | .done (.script text s) => (w, readFrom (p.withSession s) text true false)
  | .done (.raised e s) => (w, (p.withSession s).facing (.raised e))
  | .write channel text next =>
    if text = "" then (w, p.act next) else afterWriting w p channel next (w.write p channel text)
  | .read taken next =>
    match w.read p taken with
    | some (text, w) => (w, p.act (next text))
    | none => (w, p)
  | .line next =>
    match w.readLine p with
    | some (text, w) => (w, p.act (next text))
    | none => (w, p)
  | .input next => (w, p.act (next (w.inputOf p)))
  | .look next => (w, p.act (next w.disk))
  | .store disk next => ({ w with disk }, p.act next)
  | .sleep micros next => (w, p.facing (.asleep (w.micros + micros) next))
  | .launch order next => startOrder w p order next
  | .become order refused =>
    match obey w p true order with
    | .ok q => (w, q)
    | .error e => (w, p.act (refused e))
  | .flood text =>
    let block := String.join (List.replicate (floodSize / max text.length 1 + 1) text)
    let w := { w with micros := w.micros + floodMicros }
    match w.write p 1 block with
    | .closed => (w, { p with lost := true }.act (.done (.came (p.session.withStatus 1))))
    | written => afterWriting w p 1 (.flood text) written

/-- One step of a process that can take one. -/
def step (w : World) (p : Process) : World × Process :=
  match p.focus with
  | .begin body flags => begin w p body flags
  | .came => resume w p
  | .raised e => unwind w p e
  | .acting a => actOn w p a
  | .asleep _ a => (w, p.act a)
  | .blocked pipe a => if w.hasReader pipe then (w, p.act a) else afterWriting w p 1 a .broken
  | .expanding job => expandOn w p job
  | .awaiting numbers purpose => endWait w p numbers purpose
  | .launched number limit overdue next =>
    match w.ending? number with
    | some state => (w.forget [number], p.act (next (if overdue then .overdue state else .ended state)))
    | none =>
      match limit with
      | some (_, signal) => (w.send p number signal, p.facing (.launched number limit true next))
      | none => (w, p)
  | .ended _ => (w, p)

end GateRunner.Machine
