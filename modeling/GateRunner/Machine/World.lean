import GateRunner.Machine.Process

/-!
# The world of processes

The disk, the clock, the streams and pipes, and all processes. The process that has its turn stands beside the others
while it is at work. Time passes a little with every step, and by leaps when nobody has anything to do but to wait.
-/

namespace GateRunner.Machine

open Shell

/-- All there is but the process at work. -/
structure World where
  disk : Disk
  micros : Nat
  streams : List (Nat × Stream)
  pipes : List (Nat × Pipe)
  /-- The other processes, oldest first. -/
  processes : List Process
  nextProcess : Nat
  nextStream : Nat
  /-- What was written on the channels of the run, in reverse order. -/
  written : List Chunk

namespace World

/-- How long it takes to start a process, in microseconds. -/
def startMicros : Nat := 500

/-- A stream more; gives its number. -/
def openStream (w : World) (stream : Stream) : Nat × World :=
  (w.nextStream, { w with streams := (w.nextStream, stream) :: w.streams, nextStream := w.nextStream + 1 })

/-- A pipe more; gives the numbers of its intake and its outlet. -/
def openPipe (w : World) (bounded : Bool) : Nat × Nat × World :=
  let pipe := w.nextStream
  let w := { w with pipes := (pipe, .empty bounded) :: w.pipes }
  let (intake, w) := w.openStream (.intake pipe)
  let (outlet, w) := w.openStream (.outlet pipe)
  (intake, outlet, w)

/-- A stream in the place of one of the same number. -/
def setStream (w : World) (number : Nat) (stream : Stream) : World :=
  { w with streams := w.streams.map fun s => if s.1 = number then (number, stream) else s }

/-- A pipe in the place of one of the same number. -/
def setPipe (w : World) (number : Nat) (pipe : Pipe) : World :=
  { w with pipes := w.pipes.map fun s => if s.1 = number then (number, pipe) else s }

/-- Whether a pipe can still be written. -/
def hasWriter (w : World) (pipe : Nat) : Bool :=
  w.streams.any fun s =>
    match s.2 with
    | .outlet p => p = pipe
    | _ => false

/-- Whether a pipe can still be read. -/
def hasReader (w : World) (pipe : Nat) : Bool :=
  w.streams.any fun s =>
    match s.2 with
    | .intake p => p = pipe
    | _ => false

/-- Drops the streams, among those given, that no channel leads to any more; the process at work counts too. -/
def dropUnused (w : World) (p : Process) (numbers : List Nat) : World :=
  numbers.foldl (fun w n =>
    if p.leadsTo n || w.processes.any (·.leadsTo n) then w
    else
      let w := { w with streams := w.streams.filter (·.1 ≠ n) }
      { w with pipes := w.pipes.filter fun pipe => w.hasReader pipe.1 || w.hasWriter pipe.1 }) w

/-- Where a channel of a process leads. -/
def stream? (w : World) (p : Process) (channel : Nat) : Option (Nat × Stream) := do
  let number ← p.channels.lookup channel
  let stream ← w.streams.lookup number
  return (number, stream)

/-- A channel led to a stream, or nowhere. -/
def lead (w : World) (p : Process) (channel : Nat) (stream : Option Nat) : World × Process :=
  let old := (p.channels.lookup channel).toList
  let others := p.channels.filter (·.1 ≠ channel)
  let p := { p with channels := match stream with
    | some n => (channel, n) :: others
    | none => others }
  (w.dropUnused p old, p)

/-- The end of a process: its channels are closed. -/
def finish (w : World) (p : Process) (state : ExitState) : World × Process :=
  let numbers := p.channels.map (·.2)
  let p := { p with channels := [], focus := .ended state, frames := [] }
  (w.dropUnused p numbers, p)

/-- How it went with writing. -/
inductive Written
  | done (w : World)
  /-- The pipe is full now. -/
  | full (pipe : Nat) (w : World)
  /-- Nobody reads the pipe. -/
  | broken
  | closed

/-- Writes a text on a channel of a process. -/
def write (w : World) (p : Process) (channel : Nat) (text : String) : Written :=
  match w.stream? p channel with
  | none => .closed
  | some (number, stream) =>
    match stream with
    | .report c => .done { w with written := ⟨c, text⟩ :: w.written }
    | .nothing => .done w
    | .text _ _ | .intake _ | .directory => .closed
    | .file place offset atEnd =>
      match w.disk.top.at? place with
      | some (.file bytes _) =>
        let offset := if atEnd then bytes.length else offset
        let w := { w with disk := w.disk.fill place (overwrite bytes offset text) }
        .done (w.setStream number (.file place (offset + text.length) atEnd))
      | _ => .done w
    | .outlet pipe =>
      if !w.hasReader pipe then .broken
      else
        let held := ((w.pipes.lookup pipe).getD (.empty true)).push text
        let w := w.setPipe pipe held
        if held.isFull then .full pipe w else .done w

/-- What can be read on a channel: the text, whether more may come, and how to leave some of it. -/
def readable (w : World) (p : Process) (channel : Nat) : List Char × Bool × (List Char → World) :=
  match w.stream? p channel with
  | some (number, .text rest isFile) => (rest, false, fun rest => w.setStream number (.text rest isFile))
  | some (_, .intake pipe) =>
    let held := (w.pipes.lookup pipe).getD (.empty true)
    (held.held, w.hasWriter pipe, fun rest => w.setPipe pipe (held.keep rest))
  | _ => ([], false, fun _ => w)

/-- What the input of a process is. -/
def inputOf (w : World) (p : Process) : Input :=
  match w.stream? p 0 with
  | some (_, .text _ true) => .file
  | some (_, .directory) => .directory
  | some (_, .file _ _ _) | some (_, .outlet _) | some (_, .report _) | none => .closed
  | _ => .stream

/-- Reads from the input as much as is taken of it; nothing if the process has to wait. -/
def read (w : World) (p : Process) (taken : String → Option Nat) : Option (String × World) :=
  let (text, more, leave) := w.readable p 0
  match taken (String.ofList text) with
  | some n => some (String.ofList (text.take n), leave (text.drop n))
  | none => if more then none else some (String.ofList text, leave [])

/-- Reads a line from the input; nothing if the process has to wait. -/
def readLine (w : World) (p : Process) : Option (String × World) :=
  let (text, more, leave) := w.readable p 0
  let line := text.takeWhile (· ≠ '\n')
  match text.drop line.length with
  | _ :: rest => some (String.ofList (line ++ ['\n']), leave rest)
  | [] => if more then none else some (String.ofList line, leave [])

/-- A process of a number. -/
def process? (w : World) (number : Nat) : Option Process := w.processes.find? (·.number = number)

/-- How a process ended, if it has. -/
def ending? (w : World) (number : Nat) : Option ExitState :=
  match w.process? number with
  | some p =>
    match p.focus with
    | .ended state => some state
    | _ => none
  | none => none

/-- Whether a process has ended or is not there. -/
def isOver (w : World) (number : Nat) : Bool :=
  match w.process? number with
  | some p => p.hasEnded
  | none => true

/-- The world without processes whose end has been taken note of. -/
def forget (w : World) (numbers : List Nat) : World :=
  { w with processes := w.processes.filter fun p => !(numbers.contains p.number && p.hasEnded) }

/-- A process more. -/
def add (w : World) (p : Process) : World :=
  { w with processes := w.processes ++ [p], nextProcess := w.nextProcess + 1, micros := w.micros + startMicros }

/-- A process like the one at work, split off from it. -/
def split (w : World) (p : Process) : Process :=
  { p with
      number := w.nextProcess, parent := p.number, session := p.session.splitOff, focus := .came, frames := [.shell],
      pending := [], isShell := true }

/-- Sends a signal to another process than the one at work. -/
def send (w : World) (p : Process) (number signal : Nat) : World :=
  match w.process? number with
  | none => w
  | some old =>
    let new := old.receive signal
    let dies := new.hasEnded && !old.hasEnded
    let new := if dies then { new with channels := [] } else new
    let w := { w with processes := w.processes.map fun q => if q.number = number then new else q }
    if dies then w.dropUnused p (old.channels.map (·.2)) else w

end World

end GateRunner.Machine
