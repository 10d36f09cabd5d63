import GateRunner.Machine.Evaluation

/-!
# Going on after commands

What a process does when something has come to its end: the frame on top of its stack says what is left to be done. And
what it does when something is given up: the frames are gone through for one that stops the exception, each being left
in order.
-/

namespace GateRunner.Machine

open Shell

/-- What a loop makes of a jump. -/
structure Landing where
  ends : Bool
  /-- Whether the rest of this turn is passed over. -/
  passes : Bool
  /-- What is left of the jump for what is around the loop. -/
  left : Skip

/-- A jump as it reaches a loop. -/
def landing : Skip → Landing
  | .nothing => ⟨false, false, .nothing⟩
  | .leave n => ⟨true, true, if n ≤ 1 then .nothing else .leave (n - 1)⟩
  | .again n => if n ≤ 1 then ⟨false, true, .nothing⟩ else ⟨true, true, .again (n - 1)⟩
  | .back => ⟨true, true, .back⟩

/-- The session of a function as it was before it was called; a jump back has come to its end. -/
def leaveFunction (s : Session) (args : List String) (loops : Nat) (optionOffset : Option Nat) : Session :=
  let skip := if s.skip = .back then .nothing else s.skip
  { s with args, loops, optionOffset, depth := s.depth - 1, skip }

/-- The signal that has come and has something to be done on it, the one of the lowest number first. -/
def nextTrap? (p : Process) : Option (Nat × String) :=
  if p.session.skip = .nothing then
    (p.pending.mergeSort (· ≤ ·)).findSome? fun signal => (p.session.traps.lookup signal).map (signal, ·)
  else none

/-- The end of a shell with a status. What is to be done at the end comes first. -/
def leaveShell (w : World) (p : Process) (status : Nat) : World × Process :=
  let s := p.session
  match s.traps.lookup 0 with
  | some action =>
    let s := { s with traps := s.traps.filter (·.1 ≠ 0), skip := .nothing, status }
    (w, readFrom ((p.withSession s).push (.farewell status)) action false false)
  | none => w.finish p (.code (status % 256))

/-- The end of a program, which complains if its output went nowhere. -/
def leaveProgram (w : World) (p : Process) : World × Process :=
  let s := p.session
  if p.lost then
    let status := if s.name = "ls" then 2 else 1
    ({ p with lost := false }.act (.write 2 (s.name ++ ": write error: Bad file descriptor\n")
      (.done (.came (s.withStatus status)))) |> (w, ·))
  else w.finish p (.code (s.status % 256))

/-- Reads the next command of a source and begins it. The frame of the source has been taken from the stack. -/
def readOn (w : World) (p : Process) (source : Source) : World × Process :=
  let s := p.session
  let reader := { source.reader with aliases := s.aliases, nextDocument := s.nextDocument, documents := [] }
  match reader.nextCommand with
  | .finished => (w, p.comeWith source.status)
  | .wrong e => (w, (p.withSession { s with line := e.line }).fail ("Syntax error: " ++ e.reason))
  | .command body after =>
    let s := { s with documents := after.documents ++ s.documents, nextDocument := after.nextDocument }
    let p := (p.withSession s).push (.reading { source with reader := after, atWork := body.isSome })
    let read := String.ofList (reader.rest.take (reader.rest.length - after.rest.length))
    let shown := match w.write p 2 (if source.isFile && s.on 'v' then read else "") with
      | .done shown | .full _ shown => shown
      | .broken | .closed => w
    (shown, p.facing (.begin body { Flags.plain with tested := source.tested }))

/-- Goes on after something has come to its end. -/
def resume (w : World) (p : Process) : World × Process :=
  match p.frames with
  | [] => leaveProgram w p
  | frame :: frames =>
    let left := { p with frames }
    let s := p.session
    match frame with
    | .tree flags checks =>
      match nextTrap? p with
      | some (signal, action) =>
        let p := { p with pending := p.pending.filter (· ≠ signal) }
        (w, readFrom (p.push (.trap s.status)) action false false)
      | none =>
        let gives := s.on 'e' && checks && !flags.tested && s.status ≠ 0
        (w, left.facing (if gives || flags.exits then .raised (.exit none) else .came))
    | .negate => (w, left.comeWith (if s.status = 0 then 1 else 0))
    | .join isOr second flags =>
      if (s.status = 0) = isOr || s.skip ≠ .nothing then (w, left.facing .came)
      else (w, left.facing (.begin (some second) flags))
    | .follow second flags =>
      if s.skip ≠ .nothing then (w, left.facing .came) else (w, left.facing (.begin (some second) flags))
    | .choose yes no flags =>
      if s.skip ≠ .nothing then (w, left.facing .came)
      else
        match s.status, no with
        | 0, _ => (w, left.facing (.begin yes flags))
        | _, none => (w, left.comeWith 0)
        | _, some no => (w, left.facing (.begin (some no) flags))
    | .loopTest whileTrue test body flags status =>
      let l := landing s.skip
      let again (status : Nat) : World × Process :=
        (w, ((left.withSession { s with skip := l.left }).push (.loopTest whileTrue test body flags status)).facing
          (.begin test ⟨false, true⟩))
      if l.ends then
        let status := if s.skip = .back then s.status else status
        (w, (left.withSession { s with skip := l.left, status }).leaveLoop)
      else if l.passes then again status
      else if (s.status = 0) = whileTrue then
        (w, (left.push (.loopBody whileTrue test body flags)).facing (.begin body flags))
      else (w, (left.withSession { s with status }).leaveLoop)
    | .loopBody whileTrue test body flags =>
      let l := landing s.skip
      let left := left.withSession { s with skip := l.left }
      if l.ends then (w, left.leaveLoop)
      else
        (w, (left.push (.loopTest whileTrue test body flags s.status)).facing (.begin test ⟨false, true⟩))
    | .forEach name values body flags =>
      let l := landing s.skip
      let left := left.withSession { s with skip := l.left }
      (w, if l.ends then left.leaveLoop else left.nextTurn name body flags values)
    | .channels saved =>
      let (w, p) := w.restore left saved
      (w, p.facing .came)
    | .function args loops offset => (w, (left.withSession (leaveFunction s args loops offset)).facing .came)
    | .builtin _ outer =>
      if p.lost then
        (w, { p with lost := false }.say ((s.command.getD "") ++ ": I/O error") (s.status ||| 1))
      else (w, (left.withSession { s with command := outer }).facing .came)
    | .hiding => (w, (left.withSession s.endHiding).facing .came)
    | .reading source =>
      let source := if source.atWork then { source with status := s.status } else source
      if s.skip ≠ .nothing then (w, left.comeWith source.status) else readOn w left source
    | .file => (w, (left.withSession { s with skip := if s.skip = .back then .nothing else s.skip }).facing .came)
    | .trap status => (w, if s.skip = .back then left.facing .came else left.comeWith status)
    | .shell => leaveShell w left s.status
    | .farewell status => w.finish left (.code (status % 256))
    | .run c => runSimple w left c

/-- Goes through the frames with an exception. -/
def unwind (w : World) (p : Process) (e : Exception) : World × Process :=
  let s := p.session
  let status := match e with
    | .exit (some n) => n
    | _ => s.status
  match p.frames with
  | [] => w.finish p (.code (status % 256))
  | frame :: frames =>
    let left := { p with frames }
    let on := left.facing (.raised e)
    match frame with
    | .shell => leaveShell w left status
    | .farewell _ => w.finish left (.code (status % 256))
    | .channels saved =>
      let (w, p) := w.restore left saved
      (w, p.facing (.raised e))
    | .function args loops offset => (w, on.withSession (leaveFunction s args loops offset))
    | .builtin special outer =>
      let on := on.withSession { s with command := outer }
      match e, special with
      | .error, false => (w, on.facing .came)
      | _, _ => (w, on)
    | .hiding => (w, on.withSession s.endHiding)
    | .loopTest _ _ _ _ _ | .loopBody _ _ _ _ | .forEach _ _ _ _ =>
      (w, on.withSession { s with loops := s.loops - 1 })
    | _ => (w, on)

end GateRunner.Machine
