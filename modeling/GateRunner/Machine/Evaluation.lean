import GateRunner.Machine.Command

/-!
# Beginning commands, and expanding what is in them

How a process begins a command of a script: a simple one by having its words expanded, a compound one by what it
consists of. Each command leaves a frame for what is still to be done when its parts have come to their end. And how a
process goes on when words have been expanded.
-/

namespace GateRunner.Machine

open Shell

namespace Process

/-- The process about to expand words before it goes on. -/
def expandFirst (p : Process) (todo : List (Purpose × Word)) (next : After) : Process :=
  p.facing (.expanding ⟨todo, [], [], next⟩)

/-- The process in a command that begins on a line. -/
def atLine (p : Process) (line : Nat) : Process := p.withSession { p.session with line }

/-- The process within one loop more. -/
def enterLoop (p : Process) : Process := p.withSession { p.session with loops := p.session.loops + 1 }

/-- The process after the end of a loop. -/
def leaveLoop (p : Process) : Process :=
  (p.withSession { p.session with loops := p.session.loops - 1 }).facing .came

/-- The next turn of a loop over values. -/
def nextTurn (p : Process) (name : String) (body : Option Command) (flags : Flags) : List String → Process
  | [] => p.leaveLoop
  | value :: rest =>
    match p.session.assign name value with
    | .error message => p.fail message
    | .ok s => ((p.withSession s).push (.forEach name rest body flags)).facing (.begin body flags)

/-- The next pattern of a selection, or of its next branch that has one. -/
def nextPattern (p : Process) (subject : String) (flags : Flags) :
    Option Command → List Word → List (List Word × Option Command) → Process
  | body, word :: more, branches => p.expandFirst [(.text, word)] (.pattern subject more body branches flags)
  | _, [], (patterns, body) :: rest => p.nextPattern subject flags body patterns rest
  | _, [], [] => p.comeWith 0
termination_by _ words branches => (branches.length, words.length)

end Process

/-- What has to be expanded for redirections: names of files, and texts within the script. -/
def redirectWords (s : Session) (redirects : List Redirect) : List (Purpose × Word) :=
  redirects.map fun (.mk _ kind target) =>
    match kind with
    | .here document => (.document, (s.documents.lookup document).getD [])
    | _ => (.text, target)

/-- The commands whose arguments may be assignments. -/
def declaringCommands : List String := ["export", "readonly", "local", "alias"]

/-- The words of a simple command with what each is expanded for. -/
def commandWords (words : List Word) : List (Purpose × Word) :=
  let called := (words.dropWhile fun word => plainWord? word = some "command").head?.bind plainWord?
  let declares := called.any (declaringCommands.contains ·)
  words.zipIdx.map fun (word, i) =>
    (if declares && 0 < i && (assignment? word).isSome then .declaration else .fields, word)

/-- A process that has split off, with the world it is in. One that nobody waits for is not interrupted from the
keyboard and, if it is the first of its job, has no input. -/
def splitOff (w : World) (p : Process) (background first : Bool) : World × Process :=
  let child := w.split p
  if !background then (w, child)
  else
    let child := { child with ignored := child.ignored ++ [2, 3] }
    if !first then (w, child)
    else
      let (n, w) := w.openStream .nothing
      (w, { child with channels := (0, n) :: child.channels.filter (·.1 ≠ 0) })

/-- The session with one job more. -/
def withJob (s : Session) (processes : List Nat) : Session :=
  let number := (s.jobs.map (·.number)).foldl max 0 + 1
  { s with jobs := ⟨number, processes, false⟩ :: s.jobs, background := processes.getLast? }

/-- Starts the stages of a pipeline one after the other, each reading what the one before writes. -/
def startStages (w : World) (p : Process) (background : Bool) (flags : Flags) :
    List Command → Option Nat → List Nat → World × List Nat
  | [], _, started => (w, started.reverse)
  | stage :: rest, intake, started =>
    let (w, child) := splitOff w p background started.isEmpty
    let (w, outlet, next) :=
      if rest.isEmpty then (w, none, none)
      else
        let (i, o, w) := w.openPipe true
        (w, some o, some i)
    let leading (channel : Nat) (stream : Option Nat) (channels : List (Nat × Nat)) : List (Nat × Nat) :=
      match stream with
      | some n => (channel, n) :: channels.filter (·.1 ≠ channel)
      | none => channels
    let child := { child with channels := leading 0 intake (leading 1 outlet child.channels) }
    let w := w.add (child.facing (.begin (some stage) { flags with exits := true }))
    startStages w p background flags rest next (child.number :: started)

/-- Begins a command. -/
def begin (w : World) (p : Process) (body : Option Command) (flags : Flags) : World × Process :=
  let entered (checks : Bool) : Process := p.push (.tree flags checks)
  let inner : Flags := { Flags.plain with tested := flags.tested }
  match body with
  | none => (w, (entered false).facing .came)
  | some command =>
    if p.session.on 'n' then (w, (entered false).facing .came)
    else
      match command with
      | .simple line assignments words redirects =>
        let p := ((entered true).withSession { p.session with line, substituted := 0 })
        (w, p.expandFirst (commandWords words) (.words
          { flags, shown := [], args := [], noFunctions := false, redirects, assignments, traced := [], special := none,
            isLocal := false, keeps := false }))
      | .pipeline stages background =>
        let p := entered true
        let (w, numbers) := startStages w p background flags stages none []
        if background then (w, (p.withSession (withJob p.session numbers)).comeWith 0)
        else (w, p.facing (.awaiting numbers .command))
      | .redirected line body redirects =>
        let p := (entered false).atLine line
        (w, p.expandFirst (redirectWords p.session redirects) (.redirects redirects (.around body inner)))
      | .subshell line body redirects =>
        let p := (entered true).atLine line
        (w, p.expandFirst (redirectWords p.session redirects) (.redirects redirects (.split body false flags)))
      | .background line body redirects =>
        let p := (entered true).atLine line
        (w, p.expandFirst (redirectWords p.session redirects) (.redirects redirects (.split body true flags)))
      | .negated body => (w, ((entered false).push .negate).facing (.begin (some body) ⟨false, true⟩))
      | .both first second =>
        (w, ((entered false).push (.join false second flags)).facing (.begin (some first) ⟨false, true⟩))
      | .either first second =>
        (w, ((entered false).push (.join true second flags)).facing (.begin (some first) ⟨false, true⟩))
      | .sequence first second =>
        (w, ((entered false).push (.follow second flags)).facing (.begin (some first) inner))
      | .conditional test yes no =>
        (w, ((entered false).push (.choose yes no flags)).facing (.begin test ⟨false, true⟩))
      | .loop whileTrue test body =>
        let p := (entered false).enterLoop
        (w, (p.push (.loopTest whileTrue test body inner 0)).facing (.begin test ⟨false, true⟩))
      | .forEach line name words body =>
        let p := (entered false).atLine line
        (w, p.expandFirst (words.map (.fields, ·)) (.forEach name body inner))
      | .select line subject branches =>
        let p := (entered false).atLine line
        (w, p.expandFirst [(.text, subject)] (.subject branches flags))
      | .define _ name body =>
        let p := entered false
        let functions := (name, body) :: p.session.functions.filter (·.1 ≠ name)
        (w, (p.withSession { p.session with functions }).comeWith 0)

/-! ## Redirections -/

/-- Carries out redirections one after the other, up to the first that cannot be. Gives what has been kept so far, and
what is wrong with that one. -/
def redirectAll (w : World) (p : Process) (saved : Option (List (Nat × Option Nat))) :
    List (Redirect × String) → World × Process × Option (List (Nat × Option Nat)) × Option String
  | [] => (w, p, saved, none)
  | (.mk channel kind _, text) :: rest =>
    match w.redirect p saved channel kind text text with
    | .ok (w, p, saved) => redirectAll w p saved rest
    | .error message => (w, p, saved, some message)

/-- Whether the target of a redirection to another channel names one. -/
def namesChannel (redirect : Redirect) (text : String) : Bool :=
  match redirect with
  | .mk _ .duplicate _ => text = "-" || (text.length = 1 && text.toList.all Char.isDigit)
  | _ => true

/-- The command as a trace shows it. -/
def traceText (s : Session) (c : Simple) : String :=
  (s.value? "PS4").getD "" ++ " ".intercalate (c.traced.reverse ++ c.shown) ++ "\n"

/-- The channel on which a trace is written: the one for messages as it was before the command's redirections. -/
def traceChannel (p : Process) : Nat :=
  match p.frames.head? with
  | some (.channels saved) => ((saved.lookup 2).join).getD 2
  | _ => 2

/-- Goes on with a simple command: its next assignment, or its trace and the call. -/
def proceed (w : World) (p : Process) (c : Simple) : World × Process :=
  match c.assignments with
  | (name, word) :: rest => (w, p.expandFirst [(.value, word)] (.assignment name { c with assignments := rest }))
  | [] =>
    if p.session.on 'x' then
      (w, (p.push (.run c)).act (.write (traceChannel p) (traceText p.session c) (.done (.came p.session))))
    else runSimple w p c

/-- Opens redirections whose targets are known, and goes on with what they are for. -/
def openRedirects (w : World) (p : Process) (pending : List (Redirect × String)) : RedirectUse → World × Process
  | .simple c =>
    let (w, p, saved, wrong) := redirectAll w p (if c.keeps then none else some []) pending
    let p := match saved with
      | none | some [] => p
      | some saved => p.push (.channels saved)
    match wrong with
    | none => proceed w p c
    | some message => (w, if c.special = some true then p.fail message else p.say message 2)
  | .around body flags =>
    let (w, p, saved, wrong) := redirectAll w p (some []) pending
    let p := p.push (.channels (saved.getD []))
    match wrong with
    | none => (w, p.facing (.begin (some body) flags))
    | some message => (w, p.say message 2)
  | .within body flags =>
    let (w, p, _, wrong) := redirectAll w p none pending
    match wrong with
    | none => (w, p.facing (.begin body flags))
    | some message => (w, p.fail message)
  | .split body background flags =>
    let flags : Flags := ⟨true, flags.tested && !background⟩
    let results : List Expanded := pending.map fun (_, text) => ⟨[text], []⟩
    let job : ExpansionJob := ⟨[], [], results.reverse, .redirects (pending.map (·.1)) (.within body flags)⟩
    let (w, child) := splitOff w p background true
    let w := w.add (child.facing (.expanding job))
    if background then (w, (p.withSession (withJob p.session [child.number])).comeWith 0)
    else (w, p.facing (.awaiting [child.number] .command))

/-! ## When words have been expanded -/

/-- A variable given a value before a command: for the command alone, or for good. -/
def assignBefore (s : Session) (c : Simple) (name value : String) : Except String Session :=
  let s := if c.isLocal then s.hide name else s
  let exports := c.isLocal || (c.keeps && 1 < c.args.length)
  (s.assign name value).map fun s =>
    match s.binding? name with
    | some v => if exports then s.putVariable { v with exported := true } else s
    | none => s

/-- Goes on when words have been expanded. -/
def goOn (w : World) (p : Process) (results : List Expanded) : After → World × Process
  | .words c =>
    let words := results.flatMap (·.texts)
    let (args, noFunctions, special) := resolveWords p.session (words.length + 1) false none words
    let keeps := args.head? = some "exec" && special.isSome
    let isLocal := !args.isEmpty && special ≠ some true
    let c := { c with shown := words, args, noFunctions, special, isLocal, keeps }
    let p := if isLocal then (p.push .hiding).withSession p.session.beginHiding else p
    (w, p.expandFirst (redirectWords p.session c.redirects) (.redirects c.redirects (.simple c)))
  | .redirects pending use =>
    let known := pending.zip (results.map fun r => r.texts.headD "")
    if known.all (fun (redirect, text) => namesChannel redirect text) then openRedirects w p known use
    else (w, p.fail "Syntax error: Bad fd number")
  | .assignment name c =>
    let value := String.join (results.flatMap (·.texts))
    match assignBefore p.session c name value with
    | .ok s => proceed w (p.withSession s) { c with traced := (name ++ "=" ++ value) :: c.traced }
    | .error message => (w, p.fail message)
  | .forEach name body flags =>
    match results.flatMap (·.texts) with
    | [] => (w, p.comeWith 0)
    | values => (w, p.enterLoop.nextTurn name body flags values)
  | .subject branches flags =>
    (w, p.nextPattern (String.join (results.flatMap (·.texts))) flags none [] branches)
  | .pattern subject more body branches flags =>
    if covers (results.flatMap (·.pattern)) subject then
      match body with
      | none => (w, p.comeWith 0)
      | some body => (w, p.facing (.begin (some body) flags))
    else (w, p.nextPattern subject flags body more branches)

/-- Has a command run whose output an expansion needs. -/
def takeOutput (w : World) (p : Process) (s : Session) (body : Command) (job : ExpansionJob) : World × Process :=
  let (intake, outlet, w) := w.openPipe false
  let child := w.split (p.withSession s)
  let child := { child with channels := (1, outlet) :: child.channels.filter (·.1 ≠ 1) }
  let w := w.add (child.facing (.begin (some body) ⟨true, false⟩))
  let channel := p.freeChannel
  let p := { p with channels := (channel, intake) :: p.channels }
  (w, p.facing (.awaiting [child.number] (.output channel job)))

/-- Goes on with expanding. -/
def expandOn (w : World) (p : Process) (job : ExpansionJob) : World × Process :=
  match job.todo with
  | [] => goOn w p job.results.reverse job.next
  | (purpose, word) :: rest =>
    match expand w.disk purpose word job.answers p.session with
    | .done result s =>
      let job := { job with todo := rest, answers := [], results := result :: job.results }
      (w, (p.withSession s).facing (.expanding job))
    | .fault message s => (w, (p.withSession s).fail message)
    | .wants none _ => (w, p.facing (.expanding { job with answers := job.answers ++ [⟨"", 0⟩] }))
    | .wants (some body) s => takeOutput w p s body job

end GateRunner.Machine
