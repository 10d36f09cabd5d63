import GateRunner.Machine.Builtin
import GateRunner.Machine.Redirection

/-!
# Calling commands

A simple command whose words have been expanded is called by its first word: a function, a command of the shell's own,
or a program. Programs run in a process of their own, for which the shell waits, unless the shell has nothing left to
do after it.
-/

namespace GateRunner.Machine

open Shell

/-- The commands of the shell's own that run others or have to do with processes. -/
inductive Engaged
  | eval
  | dot
  | exec
  | exit
  | back
  | leave (again : Bool)
  | wait
  | kill
  | jobs
  | command

/-- A command of that kind by its name. -/
def engaged? (name : String) : Option Engaged :=
  match name with
  | "eval" => some .eval
  | "." => some .dot
  | "exec" => some .exec
  | "exit" => some .exit
  | "return" => some .back
  | "break" => some (.leave false)
  | "continue" => some (.leave true)
  | "wait" => some .wait
  | "kill" => some .kill
  | "jobs" => some .jobs
  | "command" => some .command
  | _ => none

/-- Whether a name is that of a command of the shell's own. -/
def isBuiltin (name : String) : Bool := (engaged? name).isSome || (builtins.lookup name).isSome

/-- The arguments after the word `command` and its options, unless they only ask where a command is. -/
def afterCommandWord : List String → Option (List String)
  | [] => some []
  | arg :: rest =>
    if arg = "--" then some rest
    else if arg = "-p" then afterCommandWord rest
    else if arg.startsWith "-" && arg ≠ "-" then none
    else some (arg :: rest)

/-- What a command's words call: the word `command` goes before others. -/
def resolveWords (s : Session) : Nat → Bool → Option Bool → List String → List String × Bool × Option Bool
  | 0, noFunctions, special, args => (args, noFunctions, special)
  | fuel + 1, noFunctions, special, args =>
    match args with
    | [] => ([], noFunctions, special)
    | name :: rest =>
      if !noFunctions && (s.functions.lookup name).isSome && !(specialBuiltins.contains name) then
        (args, noFunctions, special)
      else if !isBuiltin name then (args, noFunctions, special)
      else
        let special := some (special.getD (specialBuiltins.contains name))
        if name = "command" then
          match afterCommandWord rest with
          | some (next :: more) => resolveWords s fuel true special (next :: more)
          | _ => (args, noFunctions, special)
        else (args, noFunctions, special)

/-- Reads commands from a text. -/
def readFrom (p : Process) (text : String) (isFile tested : Bool) : Process :=
  (p.push (.reading (sourceOf p.session text isFile tested))).facing .came

/-- The wording of why a program cannot be started, and the status it gives. -/
def startFault (name : String) (e : PathError) : String × Nat :=
  let status := match e with
    | .notFound | .notADirectory | .tooManyLinks | .nameTooLong => 127
    | _ => 126
  let reason := match e with
    | .notFound | .notADirectory => "not found"
    | e => e.text
  (name ++ ": " ++ reason, status)

/-- A process of its own for a program, for which the shell waits. -/
def launch (w : World) (p : Process) (c : Simple) (name : String) (args : List String) : World × Process :=
  let order : Order := { name, args, environment := p.session.environment }
  let searchPath := (p.session.value? "PATH").getD standardPath
  let complain (p : Process) (e : PathError) : Process :=
    let (message, status) := startFault name e
    p.act (.write 2 (p.session.messageFront ++ message ++ "\n")
      (.done (.raised (.exit (some status)) (p.session.withStatus status))))
  match search w.disk p.session.directory searchPath name with
  | .error e => (w, p.say (startFault name e).1 127)
  | .ok _ =>
    if c.flags.exits && p.session.traps.isEmpty then
      match obey w p true order with
      | .ok q => (w.dropUnused q ((p.channels.filter (firstKept ≤ ·.1)).map (·.2)), q)
      | .error e => (w, complain p e)
    else
      let child := w.split p
      let child := match obey w { child with session := p.session } true order with
        | .ok q => q
        | .error e => complain { child with session := { p.session.splitOff with line := p.session.line } } e
      let w := w.add child
      (w, p.facing (.awaiting [child.number] .command))

/-- `exec`. -/
def execute (w : World) (p : Process) (args : List String) : World × Process :=
  match args with
  | [] => (w, p.comeWith 0)
  | name :: rest =>
    match obey w p true { name, args := rest, environment := p.session.environment } with
    | .ok q => (w.dropUnused q ((p.channels.filter (firstKept ≤ ·.1)).map (·.2)), q)
    | .error e =>
      let (message, status) := startFault name e
      (w, p.act (.write 2 (p.session.messageFront ++ message ++ "\n")
        (.done (.raised (.exit (some status)) (p.session.withStatus status)))))

/-- The file that `.` reads, as it is shown. -/
def dotFile (disk : Disk) (s : Session) (name : String) : Except String String :=
  if name.toList.contains '/' then
    match disk.entry? (joinPath s.directory (Bytes.toText name)) with
    | .ok _ => .ok name
    | .error _ => .error ("cannot open " ++ name ++ ": No such file")
  else
    let candidates := (((s.value? "PATH").getD standardPath).splitOn ":").map fun d =>
      if d = "" then name else d ++ "/" ++ name
    match candidates.find? (fun path =>
      match disk.entry? (joinPath s.directory (Bytes.toText path)) with
      | .ok (.file _ _) => true
      | _ => false) with
    | some path => .ok path
    | none => .error (name ++ ": not found")

/-- `.`. A failure in the file counts even where the status of the whole is looked at. -/
def readDotFile (w : World) (p : Process) (args : List String) : World × Process :=
  match args with
  | [] => (w, p.comeWith 0)
  | name :: _ =>
    match dotFile w.disk p.session name with
    | .error message => (w, p.fail message)
    | .ok path =>
      let text := match w.disk.read (joinPath p.session.directory (Bytes.toText path)) with
        | .ok bytes => Bytes.ofList bytes
        | .error _ => ""
      let p := (p.withSession { p.session with command := some path }).push .file
      (w, readFrom p text true false)

/-- The process that a word of `kill` or `wait` means: by its number, or by the number of its job. -/
def jobNamed? (s : Session) (word : String) : Option Job :=
  match word.toList with
  | '%' :: digits =>
    match natural? (String.ofList digits) with
    | some n => s.jobs.find? (·.number = n)
    | none => s.jobs.head?
  | _ => none

/-- `kill`, for a signal and words that mean processes. -/
def sendSignals (w : World) (p : Process) (signal : Nat) : List String → Nat → Action Reply → World × Process
  | [], status, before =>
    let s := p.session.withStatus status
    if p.hasEnded then (w, p)
    else (w, p.act (before.andThen fun _ => .done (.came s)))
  | word :: rest, status, before =>
    let missing := before.andThen fun r =>
      .write 2 (p.session.messageFront ++ "No such process\n\n") (.done r)
    match natural? word with
    | some n =>
      if n = p.number then sendSignals w (p.receive signal) signal rest status before
      else if (w.process? n).any (fun q => !q.hasEnded) then sendSignals (w.send p n signal) p signal rest status before
      else sendSignals w p signal rest 1 missing
    | none =>
      if word.startsWith "%" || word.startsWith "-" then sendSignals w p signal rest 1 missing
      else (w, p.act (before.andThen fun _ => giveUp p.session (illegalNumber word)))

/-- `kill`. -/
def killCommand (w : World) (p : Process) (args : List String) : World × Process :=
  let s := p.session
  let usage := "Usage: kill [-s sigspec | -signum | -sigspec] [pid | job]... or\nkill -l [exitstatus]"
  let send (signal : Nat) (targets : List String) : World × Process :=
    let targets := if targets.head? = some "--" then targets.drop 1 else targets
    if targets.isEmpty then (w, p.fail usage)
    else
      let (w, p) := sendSignals w p signal targets 0 (.done (.came s))
      match p.focus with
      | .ended state => w.finish p state
      | _ => (w, p)
  let bySignal (name : String) (targets : List String) : World × Process :=
    match signal? name with
    | some signal => send signal targets
    | none => (w, p.fail ("invalid signal number or name: " ++ name))
  match args with
  | [] => (w, p.fail usage)
  | "-l" :: [] => (w, p.act (sayAndLeave s (ofLines ((signalNames.drop 1).map (·.2))) 0))
  | "-l" :: text :: _ =>
    match natural? text with
    | none => (w, p.fail (illegalNumber text))
    | some n =>
      match signalNames.lookup (if 128 < n then n - 128 else n) with
      | some name => (w, p.act (sayAndLeave s (name ++ "\n") 0))
      | none => (w, p.fail ("invalid signal number or exit status: " ++ text))
  | "-s" :: name :: targets => bySignal name targets
  | first :: rest =>
    if first.startsWith "-" && 1 < first.length && first ≠ "--" then bySignal (String.ofList (first.toList.drop 1)) rest
    else send 15 args

/-- `wait`. -/
def waitCommand (w : World) (p : Process) (args : List String) : World × Process :=
  let s := p.session
  match args with
  | [] => (w, p.facing (.awaiting (s.jobs.flatMap (·.processes)) .jobs))
  | words =>
    let ofWord (word : String) : Except String (List Nat × Option Nat) :=
      if word.startsWith "%" then
        match jobNamed? s word with
        | some job => .ok (job.processes, none)
        | none => .error ("No such job: " ++ word)
      else
        match natural? word with
        | none => .error (illegalNumber word)
        | some n =>
          match s.jobs.find? (fun job => job.processes.getLast? = some n) with
          | some job => .ok (job.processes, none)
          | none =>
            if (w.process? n).any (·.parent = p.number) then .ok ([n], none) else .ok ([], some 127)
    match words.mapM ofWord with
    | .error message => (w, p.fail message)
    | .ok found =>
      (w, p.facing (.awaiting (found.flatMap (·.1)) (.named ((found.getLast?.map (·.2)).getD none))))

/-- The state of a job in the words of `jobs`. -/
def jobState (w : World) (job : Job) : String :=
  match w.ending? (job.processes.getLast?.getD 0) with
  | none => "Running"
  | some (.code 0) => "Done"
  | some (.code n) => "Done(" ++ toString n ++ ")"
  | some (.signal n) => signalText n

/-- `jobs`. Jobs that are done are shown once. -/
def jobsCommand (w : World) (p : Process) : World × Process :=
  let s := p.session
  let rows := s.jobs.zipIdx.map fun (job, i) =>
    let mark := if i = 0 then "+" else if i = 1 then "-" else " "
    let front := "[" ++ toString job.number ++ "] " ++ mark ++ " " ++ jobState w job
    front ++ String.ofList (List.replicate (33 - front.length) ' ')
  let running := s.jobs.filter fun job => !job.processes.all w.isOver
  (w, p.act (sayAndLeave { s with jobs := running } (ofLines rows) 0))

/-- A number that a jump is given, one if none is. -/
def jumpCount (args : List String) : Except String Nat :=
  match args with
  | [] => .ok 1
  | text :: _ =>
    match natural? text with
    | some n => .ok n
    | none => .error (illegalNumber text)

/-- The status as it was before a trap began. -/
def Frame.statusBefore? : Frame → Option Nat
  | .trap status | .farewell status => some status
  | _ => none

/-- A command of the shell's own that runs others or has to do with processes. -/
def engage (w : World) (p : Process) (c : Simple) (args : List String) : Engaged → World × Process
  | .eval => (w, readFrom p (" ".intercalate args) false c.flags.tested)
  | .dot => readDotFile w p args
  | .exec => execute w p args
  | .exit =>
    match args with
    | [] => (w, p.facing (.raised (.exit (p.frames.findSome? Frame.statusBefore?))))
    | text :: _ =>
      match natural? text with
      | some n => (w, p.facing (.raised (.exit (some (n % 256)))))
      | none => (w, p.fail (illegalNumber text))
  | .back =>
    match args with
    | [] => (w, (p.withSession { p.session with skip := .back }).facing .came)
    | text :: _ =>
      match natural? text with
      | some n => (w, (p.withSession { p.session with skip := .back, status := n }).facing .came)
      | none => (w, p.fail (illegalNumber text))
  | .leave again =>
    match jumpCount args with
    | .error message => (w, p.fail message)
    | .ok 0 => (w, p.fail (illegalNumber (args.headD "")))
    | .ok n =>
      let n := min n p.session.loops
      let skip : Skip := if n = 0 then .nothing else if again then .again n else .leave n
      (w, (p.withSession { p.session with skip }).comeWith 0)
  | .wait => waitCommand w p args
  | .kill => killCommand w p args
  | .jobs => jobsCommand w p
  | .command =>
    match letters ['v', 'V', 'p'] [] args with
    | .error message => (w, p.fail message)
    | .ok (given, names) =>
      if given.any (·.1 = 'V') then (w, p.act (whichCommand true p.session names))
      else if given.any (·.1 = 'v') then (w, p.act (whichCommand false p.session names))
      else (w, p.comeWith 0)

/-- Runs a simple command whose words, redirections and assignments are done with. -/
def runSimple (w : World) (p : Process) (c : Simple) : World × Process :=
  match c.args with
  | [] => (w, p.comeWith p.session.substituted)
  | name :: args =>
    let s := p.session
    let function := if c.noFunctions || specialBuiltins.contains name then none else s.functions.lookup name
    match function with
    | some body =>
      let p := p.push (.function s.args s.loops s.optionOffset)
      let p := p.withSession { s with args, loops := 0, depth := s.depth + 1, optionOffset := none }
      (w, p.facing (.begin (some body) { Flags.plain with tested := c.flags.tested }))
    | none =>
      if isBuiltin name then
        let p := p.push (.builtin (c.special.getD false) s.command)
        let p := p.withSession { s with command := some name }
        match engaged? name, builtins.lookup name with
        | some e, _ => engage w p c args e
        | none, some b => (w, p.act (b p.session args))
        | none, none => (w, p.comeWith 127)
      else launch w p c name args

end GateRunner.Machine
