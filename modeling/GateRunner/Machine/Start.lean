import GateRunner.Machine.World
import GateRunner.Program.Signal
import GateRunner.Tool.Catalogue

/-!
# Starting programs

A program is a file that may be executed: one of the programs there are, the shell, or a script that names the program
to read it. A name without a slash is looked for in the directories that the variable `PATH` lists.
-/

namespace GateRunner.Machine

open Shell

/-- What a shell is called to do. -/
inductive Invocation
  /-- To carry out a script, under a name and with arguments. -/
  | script (text : String) (name : String) (args : List String)
  /-- To carry out the script in a file. -/
  | file (path : String) (args : List String)
  /-- To carry out what it reads. -/
  | input (args : List String)
  | wrong (message : String)

/-- How the options of a shell have been read so far. -/
structure InvocationOptions where
  session : Session
  fromText : Bool
  fromInput : Bool

/-- The option of a name. -/
def optionNamed? (name : String) : Option Char := (optionNames.find? (·.2 = name)).map (·.1)

/-- The letters of options switched; what is wrong with them, and how many of them wait for a name. -/
def switchLetters (value : Bool) : List Char → InvocationOptions → Except String (InvocationOptions × Nat)
  | [], o => .ok (o, 0)
  | c :: rest, o =>
    if c = 'c' then switchLetters value rest { o with fromText := true }
    else if c = 'l' then switchLetters value rest o
    else if c = 'o' then (switchLetters value rest o).map fun (o, n) => (o, n + 1)
    else if (optionNames.map (·.1)).contains c && 32 < c.toNat then
      let o := if c = 's' then { o with fromInput := true } else o
      switchLetters value rest { o with session := o.session.switch c value }
    else .error ("Illegal option -" ++ String.singleton c)

/-- What a shell is called to do by its arguments, with the options it has read. -/
def readInvocation (o : InvocationOptions) : Nat → Bool → List String → Session × Invocation
  | names + 1, value, name :: rest =>
    match optionNamed? name with
    | some c => readInvocation { o with session := o.session.switch c value } names value rest
    | none => (o.session, .wrong ("Illegal option -o " ++ name))
  | _ + 1, _, [] => (o.session, .input [])
  | 0, _, arg :: rest =>
    let operands (args : List String) : Session × Invocation :=
      (o.session,
        if o.fromText then
          match args with
          | [] => .wrong "-c requires an argument"
          | text :: more => .script text (more.headD o.session.name) more.tail
        else if o.fromInput then .input args
        else
          match args with
          | [] => .input []
          | path :: more => .file path more)
    if arg = "-" || arg = "--" then operands rest
    else if (arg.startsWith "-" || arg.startsWith "+") && 1 < arg.length then
      let value := arg.startsWith "-"
      match switchLetters value (arg.toList.drop 1) o with
      | .ok (o, names) => readInvocation o names value rest
      | .error message => (o.session, .wrong message)
    else operands (arg :: rest)
  | 0, _, [] => (o.session, if o.fromText then .wrong "-c requires an argument" else .input [])

/-- What can be executed. -/
inductive Program
  | tool (t : Tool)
  | shell
  /-- A script, with the program that reads it and an argument for that. -/
  | script (interpreter : String) (arg : Option String)

/-- The first line of a script that names the program to read it. -/
def interpreterOf? (bytes : List UInt8) : Option (String × Option String) :=
  match Bytes.ofList (bytes.takeWhile (· ≠ 10)) |>.toList with
  | '#' :: '!' :: rest =>
    let isBlank (c : Char) : Bool := c = ' ' || c = '\t'
    let rest := rest.dropWhile isBlank
    let name := rest.takeWhile (fun c => !isBlank c)
    let arg := ((rest.drop name.length).dropWhile isBlank).reverse.dropWhile isBlank |>.reverse
    if name.isEmpty then none
    else some (String.ofList name, if arg.isEmpty then none else some (String.ofList arg))
  | _ => none

/-- What can be executed at the end of a path. -/
def programAt (disk : Disk) (path : String) : Except PathError Program :=
  match disk.locate path with
  | .error e => .error e
  | .ok (.vacant _) => .error .notFound
  | .ok (.taken _ (.dir _)) => .error .permission
  | .ok (.taken _ (.link _)) => .error .notFound
  | .ok (.taken place (.file bytes status)) =>
    if !status.isExecutable then .error .permission
    else
      match place with
      | ["usr", "bin", name] =>
        if name = "sh" || name = "dash" then .ok .shell
        else
          match tools.lookup name with
          | some t => .ok (.tool t)
          | none => .error .notExecutable
      | _ =>
        match interpreterOf? bytes with
        | some (interpreter, arg) => .ok (.script interpreter arg)
        | none => .error .notExecutable

/-- The directories in which programs are looked for if no variable says otherwise. -/
def standardPath : String := "/usr/local/sbin:/usr/local/bin:/usr/sbin:/usr/bin:/sbin:/bin"

/-- The path of a program by its name, as a text of bytes. Files that may not be executed are passed over, but
remembered. -/
def search (disk : Disk) (directory searchPath name : String) : Except PathError String :=
  if name = "" then .error .notFound
  else if name.toList.contains '/' then .ok name
  else if Disk.nameLimit < name.length then .error .nameTooLong
  else
    let candidates := (searchPath.splitOn ":").map fun d => if d = "" then name else d ++ "/" ++ name
    let found (path : String) : Option (Except PathError String) :=
      match disk.entry? (joinPath directory (Bytes.toText path)) with
      | .ok (.file _ status) => some (if status.isExecutable then .ok path else .error .permission)
      | .ok _ => some (.error .permission)
      | _ => none
    let all := candidates.filterMap found
    match all.find? (·.isOk) with
    | some path => path
    | none => if all.isEmpty then .error .notFound else .error .permission

/-- Where commands are read from a text. -/
def sourceOf (s : Session) (text : String) (isFile tested : Bool) : Source :=
  { reader := Reader.begin text.toList 1 s.nextDocument s.aliases, isFile, tested, status := 0, atWork := false }

/-- A process as a shell that reads its script from a file. What cannot be read as a script holds no commands. -/
def asScript (disk : Disk) (p : Process) (s : Session) (path : String) (args : List String) : Option Process :=
  let s := { s with name := path, args }
  let shell (text : String) : Process :=
    ({ p with isShell := true, frames := [.shell], pending := [], session := s }.push
      (.reading (sourceOf s text true false))).facing .came
  match disk.entry? (joinPath s.directory (Bytes.toText path)) with
  | .ok (.file bytes _) => some (shell (Bytes.ofList bytes))
  | .ok _ => some (shell "")
  | .error _ => none

/-- A process as a shell with those arguments. -/
def asShell (disk : Disk) (p : Process) (name : String) (args : List String) (environment : List (String × String)) :
    Process :=
  let s := Session.fresh name p.session.directory environment p.number p.parent
  let (s, invocation) := readInvocation ⟨s, false, false⟩ 0 true args
  let p := { p with isShell := true, frames := [.shell], pending := [] }
  let refuse (message : String) : Process :=
    (p.withSession s).act (.write 2 (name ++ ": 0: " ++ message ++ "\n") (.done (.raised (.exit none) (s.withStatus 2))))
  match invocation with
  | .script text name args =>
    let s := { s with name, args }
    ((p.withSession s).push (.reading (sourceOf s text false false))).facing .came
  | .file path args =>
    match asScript disk p s path args with
    | some p => p
    | none => refuse ("cannot open " ++ path ++ ": No such file")
  | .input args =>
    let s := { s with args }
    (p.withSession s).act (.read (fun _ => none) fun text => .done (.script text s))
  | .wrong message => refuse message

/-- A process that turns into the program at the end of a path, under a name. Scripts name the program that reads them,
which may be a script again; one that names none is no program, and left to the shell if a shell asks. -/
def turnInto (w : World) (p : Process) (fromShell : Bool) (environment : List (String × String)) :
    Nat → String → String → List String → Except PathError Process
  | 0, _, _, _ => .error .tooManyLinks
  | fuel + 1, path, name, args => do
    let ignored := p.ignored ++ (p.session.traps.filter (·.2 = "")).map (·.1)
    let q := { p with
      ignored, channels := p.channels.filter (·.1 < 10), frames := [], pending := [], isShell := false, lost := false }
    let asText : Option Process :=
      asScript w.disk q (Session.fresh path p.session.directory environment p.number p.parent) path args
    match programAt w.disk (joinPath p.session.directory (Bytes.toText path)) with
    | .ok (.tool t) =>
      let s := { q.session with name, traps := [], options := [] }
      let call : Call := ⟨name, args, s.directory, environment⟩
      return (q.withSession s).perform (t call)
    | .ok .shell => return asShell w.disk q name args environment
    | .ok (.script interpreter arg) =>
      turnInto w p fromShell environment fuel interpreter interpreter (arg.toList ++ path :: args)
    | .error .notExecutable =>
      match fromShell, asText with
      | true, some q => return q
      | _, _ => throw .notExecutable
    | .error e => throw e

/-- A process that turns into the program of an order. -/
def obey (w : World) (p : Process) (fromShell : Bool) (order : Order) : Except PathError Process := do
  let p := match order.directory with
    | some directory => p.withSession { p.session with directory }
    | none => p
  let searchPath := (order.environment.lookup "PATH").getD standardPath
  let path ← search w.disk p.session.directory searchPath order.name
  turnInto w p fromShell order.environment 5 path order.name order.args

end GateRunner.Machine
