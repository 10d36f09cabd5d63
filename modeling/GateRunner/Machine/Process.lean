import GateRunner.Machine.Stream
import GateRunner.Shell.Expansion

/-!
# Processes

A process is a session, the channels it has, what it is about to do, and what is left to be done after that: a stack of
frames, one for each construct of the script that is still open. A process that runs a program has no frames; when the
program is done, so is the process.
-/

namespace GateRunner.Machine

open Shell

/-- How a command is carried out. -/
structure Flags where
  /-- Whether the process ends with the command. -/
  exits : Bool
  /-- Whether the command's status is looked at, so that a failure is no reason to stop. -/
  tested : Bool

/-- Neither of the two. -/
def Flags.plain : Flags := ⟨false, false⟩

/-- Why what is at work is given up. -/
inductive Exception
  /-- A mistake. -/
  | error
  /-- The shell is to end, with a status if one is given. -/
  | exit (status : Option Nat)

/-- What comes of an action in a process. -/
inductive Reply
  | came (s : Session)
  /-- Commands have been read that are now to be carried out. -/
  | script (text : String) (s : Session)
  | raised (e : Exception) (s : Session)

/-- Where commands are read from. -/
structure Source where
  reader : Reader
  /-- Whether it is a file, the lines of which can be shown as they are read. -/
  isFile : Bool
  tested : Bool
  /-- The status of the last command. -/
  status : Nat
  /-- Whether a command is at work whose status is the next one. -/
  atWork : Bool

/-- A simple command on its way: what is left to be expanded, and what has been so far. -/
structure Simple where
  flags : Flags
  /-- The command as it is written in a trace. -/
  shown : List String
  /-- The command that is called, with its arguments. -/
  args : List String
  /-- Whether functions are passed over when the command is looked for. -/
  noFunctions : Bool
  redirects : List Redirect
  assignments : List (String × Word)
  /-- The assignments carried out, for a trace, in reverse order. -/
  traced : List String
  /-- Whether a mistake in it ends the shell; nothing if it is no command of the shell's own. -/
  special : Option Bool
  /-- Whether its variables last only as long as it does. -/
  isLocal : Bool
  /-- Whether its redirections stay. -/
  keeps : Bool

/-- What opened redirections are for. -/
inductive RedirectUse
  | simple (c : Simple)
  /-- A command within them. -/
  | around (body : Command) (flags : Flags)
  /-- A process that has split off for them. -/
  | within (body : Option Command) (flags : Flags)
  /-- A process that is to split off for them, perhaps without being waited for. -/
  | split (body : Option Command) (background : Bool) (flags : Flags)

/-- What expanded words are for. -/
inductive After
  | words (c : Simple)
  | redirects (pending : List Redirect) (use : RedirectUse)
  | assignment (name : String) (c : Simple)
  | forEach (name : String) (body : Option Command) (flags : Flags)
  | subject (branches : List (List Word × Option Command)) (flags : Flags)
  | pattern (subject : String) (more : List Word) (body : Option Command) (branches : List (List Word × Option Command))
      (flags : Flags)

/-- Words being expanded. -/
structure ExpansionJob where
  todo : List (Purpose × Word)
  /-- The outputs known for the first of them. -/
  answers : List Answer
  /-- What came of those before, in reverse order. -/
  results : List Expanded
  next : After

/-- What is left to be done when something has come to its end. -/
inductive Frame
  /-- A command, which may end the shell if it failed. -/
  | tree (flags : Flags) (checks : Bool)
  | negate
  | join (isOr : Bool) (second : Command) (flags : Flags)
  | follow (second : Command) (flags : Flags)
  | choose (yes no : Option Command) (flags : Flags)
  | loopTest (whileTrue : Bool) (test body : Option Command) (flags : Flags) (status : Nat)
  | loopBody (whileTrue : Bool) (test body : Option Command) (flags : Flags)
  | forEach (name : String) (values : List String) (body : Option Command) (flags : Flags)
  /-- Channels to be led back, each with the channel that keeps where it led. -/
  | channels (saved : List (Nat × Option Nat))
  | function (args : List String) (loops : Nat) (optionOffset : Option Nat)
  /-- A command of the shell's own within which commands run; the name of the one around it. -/
  | builtin (special : Bool) (outer : Option String)
  | hiding
  /-- Commands are read on. -/
  | reading (source : Source)
  /-- A file of commands has been read. -/
  | file
  /-- What was to be done on a signal has been done. -/
  | trap (status : Nat)
  /-- The end of a shell, with what is still to be done. -/
  | shell
  /-- What was to be done at the end has been done. -/
  | farewell (status : Nat)
  /-- A simple command, all of whose words have been expanded, is to run. -/
  | run (c : Simple)

/-- What a process that waits for others waits for. -/
inductive Waiting
  /-- A command, whose status is that of the last process. -/
  | command
  /-- The output of a command, on a channel, for an expansion. -/
  | output (channel : Nat) (job : ExpansionJob)
  /-- All jobs. -/
  | jobs
  /-- Jobs by their processes; the status is that of the last, or another if there is no such job. -/
  | named (status : Option Nat)

/-- What a process is about to do. -/
inductive Focus
  | begin (body : Option Command) (flags : Flags)
  | came
  | raised (e : Exception)
  | acting (a : Action Reply)
  | asleep (wake : Nat) (a : Action Reply)
  /-- A writer waits until there is room in a pipe. -/
  | blocked (pipe : Nat) (a : Action Reply)
  | expanding (job : ExpansionJob)
  | awaiting (numbers : List Nat) (purpose : Waiting)
  /-- A program waits for another one, and perhaps not for ever. -/
  | launched (number : Nat) (limit : Option (Nat × Nat)) (overdue : Bool) (next : Ran → Action Reply)
  | ended (state : ExitState)

/-- A process. -/
structure Process where
  number : Nat
  parent : Nat
  /-- The streams that channels lead to, by number. -/
  channels : List (Nat × Nat)
  session : Session
  focus : Focus
  frames : List Frame
  /-- Signals that have come and wait to be dealt with. -/
  pending : List Nat
  /-- Signals that are taken no notice of. -/
  ignored : List Nat
  /-- Whether it is a shell. -/
  isShell : Bool
  /-- Whether something written on the output got lost because that leads nowhere. -/
  lost : Bool

namespace Process

/-- The process about to do something else. -/
def facing (p : Process) (focus : Focus) : Process := { p with focus }

/-- The process with a frame more. -/
def push (p : Process) (frame : Frame) : Process := { p with frames := frame :: p.frames }

/-- The process with another session. -/
def withSession (p : Process) (s : Session) : Process := { p with session := s }

/-- The process after a command with that status. -/
def comeWith (p : Process) (status : Nat) : Process :=
  { p with session := p.session.withStatus status, focus := .came }

/-- The process about to act. -/
def act (p : Process) (a : Action Reply) : Process := { p with focus := .acting a }

/-- The process about to run a program of its own, whose exit code is its status. -/
def perform (p : Process) (a : Action Nat) : Process :=
  p.act (do return .came (p.session.withStatus (← a)))

/-- The process about to write a message on the channel for messages, and to go on. -/
def say (p : Process) (message : String) (status : Nat) : Process :=
  p.act (.write 2 (p.session.messageFront ++ message ++ "\n") (.done (.came (p.session.withStatus status))))

/-- The process about to give up because of a mistake. -/
def fail (p : Process) (message : String) : Process :=
  p.act (.write 2 (p.session.messageFront ++ message ++ "\n") (.done (.raised .error (p.session.withStatus 2))))

/-- Whether the process has come to its end. -/
def hasEnded (p : Process) : Bool :=
  match p.focus with
  | .ended _ => true
  | _ => false

/-- Whether a channel of the process leads to a stream. -/
def leadsTo (p : Process) (stream : Nat) : Bool := p.channels.any (·.2 = stream)

/-- What becomes of a signal by itself: it is passed over if it is harmless. -/
def isHarmless (signal : Nat) : Bool := signal ∈ [0, 17, 18, 19, 20, 21, 22, 23, 28]

/-- The process after a signal. Nothing can be done about the ninth one. -/
def receive (p : Process) (signal : Nat) : Process :=
  let die := if isHarmless signal then p else { p with focus := .ended (.signal signal), frames := [] }
  if p.hasEnded || signal = 0 then p
  else if signal = 9 then die
  else if p.ignored.contains signal then p
  else if p.isShell then
    match p.session.traps.lookup signal with
    | some "" => p
    | some _ => { p with pending := p.pending ++ [signal] }
    | none => die
  else die

end Process

end GateRunner.Machine
