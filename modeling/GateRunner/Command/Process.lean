import GateRunner.Machine.Run
import GateRunner.Project.Scan
import GateRunner.Time.Duration

/-!
# Processes

A process is a program run in the directory of a project, with a time limit. It can fail to start, finish by itself or
by a signal, or be cut off by the limit. What the programs do is worked out on the project's disk, with time that
passes mostly where a program sleeps; starting the process takes a millisecond.
-/

namespace GateRunner

/-- What a finished process leaves behind. -/
structure ProcessOutput where
  ending : ExitState
  stdout : List UInt8
  stderr : List UInt8
deriving DecidableEq, Repr

/-- Why a process does not start. -/
inductive StartError
  /-- The directory or the program cannot be used. -/
  | path (e : PathError)
  /-- There is a zero byte in the program's name or in an argument. -/
  | zeroByte
deriving DecidableEq, Repr

/-- The wording of an error. -/
def StartError.message : StartError → String
  | .path e => e.message
  | .zeroByte => "nul byte found in provided data"

/-- How it went with a process. -/
inductive ProcessRun
  | finished (output : ProcessOutput) (millis : Nat)
  | timedOut
  | notStarted (e : StartError)
deriving DecidableEq, Repr

namespace Process

open Machine Shell

/-- Whether a text holds a zero byte. -/
def holdsZero (text : String) : Bool := text.toList.any (fun c => c.toNat = 0)

/-- The time limit in milliseconds, rounded up. -/
def limitMillis (timeout : Duration) : Nat := (timeout.toNanos + 999999) / 1000000

/-- The variables that a process starts with. -/
def environment : List (String × String) := [("HOME", "/root"), ("PATH", standardPath)]

/-- The number of the first process of a run. -/
def firstNumber : Nat := 4242

/-- The number of the process that starts the first one. -/
def runnerNumber : Nat := 4241

/-- How long it takes to start a process, in microseconds. -/
def startMicros : Nat := 1000

/-- The streams that the channels of a process lead to at first. -/
def streams : List (Nat × Stream) := [(0, .nothing), (1, .report 1), (2, .report 2)]

/-- A process in a directory that does not do anything yet. -/
def idle (directory : String) : Machine.Process :=
  { number := firstNumber, parent := runnerNumber, channels := [(0, 0), (1, 1), (2, 2)],
    session := .fresh "" directory environment firstNumber runnerNumber, focus := .came, frames := [], pending := [],
    ignored := [], isShell := false, lost := false }

/-- The world in which a process is to begin on a disk. -/
def world (disk : Disk) : World :=
  { disk, micros := startMicros, streams, pipes := [], processes := [], nextProcess := firstNumber + 1, nextStream := 3,
    written := [] }

/-- What a process is to be: its program, once it is clear that it can start in the project's directory. -/
def prepare (project : Project) (program : String) (args : List String) : Except StartError Machine.Process :=
  if holdsZero program || args.any holdsZero then .error .zeroByte
  else
    match project.disk.locate project.root with
    | .ok (.taken place (.dir _)) =>
      let order : Order := { name := Bytes.ofText program, args := args.map Bytes.ofText, environment }
      match obey (world project.disk) (idle ("/" ++ "/".intercalate place)) false order with
      | .ok p => .ok p
      | .error e => .error (.path e)
    | .ok (.taken _ _) => .error (.path .notADirectory)
    | .ok (.vacant _) => .error (.path .notFound)
    | .error e => .error (.path e)

/-- How many steps a run may take, which is more than fit into its time. -/
def runFuel : Nat := 100000000

/-- How many steps the processes that are left may take afterwards. -/
def settleFuel : Nat := 5000

/-- The bytes that were written on a channel of the run. -/
def bytesOf (w : World) (channel : Nat) : List UInt8 :=
  (w.written.reverse.filter (fun c => c.channel = channel)).flatMap fun c => Bytes.toList c.text

/-- Runs a program in a project with a time limit; gives how it went, and the project after it. -/
def start (project : Project) (program : String) (args : List String) (timeout : Duration) : ProcessRun × Project :=
  match prepare project program args with
  | .error e => (.notStarted e, project)
  | .ok p =>
    let (ending, w) := { world project.disk with processes := [p] }.run firstNumber (limitMillis timeout * 1000) runFuel
    let run := match ending with
      | .late => .timedOut
      | .ended state => .finished ⟨state, bytesOf w 1, bytesOf w 2⟩ (w.micros / 1000)
    let w := match ending with
      | .late => w.send (idle "/") firstNumber 9
      | .ended _ => w
    (run, { project with disk := (w.settle settleFuel).disk })

end Process

end GateRunner
