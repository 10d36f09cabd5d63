import GateRunner.Program.Action
import GateRunner.Shell.Arithmetic
import GateRunner.Shell.Reader

/-!
# Sessions

A session is what a shell knows: variables, functions, aliases, arguments, options, traps and the jobs it has started.
Commands change it one after the other. The directory belongs to it too, and every program started from here works in
it.
-/

namespace GateRunner.Shell

/-- A variable, which may have no value yet. -/
structure Variable where
  name : String
  value : Option String
  exported : Bool
  readOnly : Bool

/-- What is passed over after a command that jumps. -/
inductive Skip
  | nothing
  /-- The rest of so many loops. -/
  | leave (loops : Nat)
  /-- The rest of this turn of so many loops, of all but the last of them altogether. -/
  | again (loops : Nat)
  /-- The rest of the function at work, or of the script. -/
  | back
deriving DecidableEq, Repr

/-- A job: its number, and its processes in order. -/
structure Job where
  number : Nat
  processes : List Nat
  /-- Whether its end was noticed while something else was waited for. -/
  noticed : Bool
deriving DecidableEq, Repr

/-- A shell at work. -/
structure Session where
  bindings : List Variable
  functions : List (String × Command)
  aliases : List (String × String)
  name : String
  args : List String
  /-- The options by their letters. -/
  options : List Char
  /-- What is to be done on signals, and at the end under the number zero. -/
  traps : List (Nat × String)
  status : Nat
  /-- The status of the last command whose output was taken, since the command at work began. -/
  substituted : Nat
  background : Option Nat
  /-- The number of the process that the shell began as. -/
  number : Nat
  parent : Nat
  /-- The line of the command at work. -/
  line : Nat
  /-- The command of the shell's own that is at work, for messages. -/
  command : Option String
  loops : Nat
  skip : Skip
  /-- The variables that the functions and commands at work keep to themselves, with what they were before, innermost
  first. -/
  hidden : List (List (String × Option Variable))
  /-- How many functions and files are at work. -/
  depth : Nat
  /-- Where in an argument the reading of options stands. -/
  optionOffset : Option Nat
  jobs : List Job
  /-- The directory as the disk has it. -/
  directory : String
  /-- The directory by the way it was reached. -/
  wayHere : String
  documents : List (Nat × Word)
  nextDocument : Nat
  /-- The permissions that new files do not get. -/
  mask : Nat

/-- The letters of the options with their names. -/
def optionNames : List (Char × String) :=
  [('e', "errexit"), ('f', "noglob"), ('I', "ignoreeof"), ('i', "interactive"), ('m', "monitor"), ('n', "noexec"),
    ('s', "stdin"), ('x', "xtrace"), ('v', "verbose"), ('V', "vi"), ('E', "emacs"), ('C', "noclobber"),
    ('a', "allexport"), ('b', "notify"), ('u', "nounset"), ('p', "privileged"), ('\x01', "nolog"), ('\x02', "debug")]

namespace Session

/-- The beginning of a session, with the variables it is given. -/
def fresh (name directory : String) (environment : List (String × String)) (number parent : Nat) : Session :=
  let given := environment.map fun (name, value) => (⟨name, some value, true, false⟩ : Variable)
  let own : List Variable :=
    [⟨"IFS", some " \t\n", false, false⟩, ⟨"OPTIND", some "1", false, false⟩, ⟨"PS1", some "# ", false, false⟩,
      ⟨"PS2", some "> ", false, false⟩, ⟨"PS4", some "+ ", false, false⟩,
      ⟨"PPID", some (toString parent), false, false⟩]
  let named := given.filter fun v => v.name ∉ own.map (·.name)
  let way := ((environment.lookup "PWD").filter fun way => way = Bytes.ofText directory).getD (Bytes.ofText directory)
  let place : Variable := ⟨"PWD", some way, true, false⟩
  { bindings := place :: own ++ named.filter (·.name ≠ "PWD"), functions := [], aliases := [], name, args := [],
    options := [], traps := [], status := 0, substituted := 0, background := none, number, parent, line := 1,
    command := none, loops := 0, skip := .nothing, hidden := [], depth := 0, optionOffset := none, jobs := [],
    directory, wayHere := way, documents := [], nextDocument := 0,
    mask := 0o022 }

/-- The session with another status. -/
def withStatus (s : Session) (status : Nat) : Session := { s with status }

/-- Whether an option is on. -/
def on (s : Session) (letter : Char) : Bool := s.options.contains letter

/-- The session with an option switched. -/
def switch (s : Session) (letter : Char) (on : Bool) : Session :=
  let others := s.options.filter (· ≠ letter)
  { s with options := if on then others ++ [letter] else others }

/-- The options that are on, in the order in which they are shown: the last first. -/
def shownOptions (s : Session) : String :=
  String.ofList ((optionNames.map (·.1)).reverse.filter fun c => s.on c && 32 < c.toNat)

/-- The front of a message. -/
def messageFront (s : Session) : String :=
  s.name ++ ": " ++ toString s.line ++ ": " ++ (match s.command with
    | some name => name ++ ": "
    | none => "")

/-- A variable by its name. -/
def binding? (s : Session) (name : String) : Option Variable := s.bindings.find? (·.name = name)

/-- The value of a variable. -/
def value? (s : Session) (name : String) : Option String := (s.binding? name).bind (·.value)

/-- A variable in the place of the one of its name. -/
def putVariable (s : Session) (v : Variable) : Session :=
  { s with bindings := v :: s.bindings.filter (·.name ≠ v.name) }

/-- No variable of that name. -/
def dropVariable (s : Session) (name : String) : Session :=
  { s with bindings := s.bindings.filter (·.name ≠ name) }

/-- The message about a variable that may not be changed. -/
def readOnlyMessage (name : String) : String := name ++ ": is read only"

/-- A variable given a value. Assigning where the reading of options stands begins it anew. -/
def assign (s : Session) (name value : String) : Except String Session :=
  let old := (s.binding? name).getD ⟨name, none, false, false⟩
  if old.readOnly then .error (readOnlyMessage name)
  else
    let s := s.putVariable { old with value := some value, exported := old.exported || s.on 'a' }
    .ok (if name = "OPTIND" then { s with optionOffset := none } else s)

/-- A variable without a value. -/
def unassign (s : Session) (name : String) : Except String Session :=
  if (s.binding? name).any (·.readOnly) then .error (readOnlyMessage name)
  else .ok (s.dropVariable name)

/-- Keeps what a variable is now, to be restored when the innermost function or command ends. -/
def hide (s : Session) (name : String) : Session :=
  match s.hidden with
  | [] => s
  | inner :: outer =>
    if inner.any (·.1 = name) then s else { s with hidden := ((name, s.binding? name) :: inner) :: outer }

/-- The beginning of what may hide variables. -/
def beginHiding (s : Session) : Session := { s with hidden := [] :: s.hidden }

/-- The end of it: hidden variables are what they were before. -/
def endHiding (s : Session) : Session :=
  let restored := (s.hidden.headD []).foldl (fun s (name, before) =>
    match before with
    | some v => s.putVariable v
    | none => s.dropVariable name) s
  { restored with hidden := s.hidden.tail }

/-- The variables that programs started from here get, by name. -/
def environment (s : Session) : List (String × String) :=
  ((s.bindings.filter (·.exported)).filterMap fun v => v.value.map fun value => (v.name, value)).mergeSort
    fun a b => a.1 ≤ b.1

/-- The characters at which fields are cut. -/
def separators (s : Session) : String := (s.value? "IFS").getD " \t\n"

/-- What arguments are joined by. -/
def joiner (s : Session) : String :=
  match s.value? "IFS" with
  | none => " "
  | some text => String.ofList (text.toList.take 1)

/-- The value of a parameter, if it is set. -/
def parameter? (s : Session) (name : String) : Option String :=
  match name with
  | "0" => some s.name
  | "#" => some (toString s.args.length)
  | "?" => some (toString s.status)
  | "$" => some (toString s.number)
  | "@" | "*" => some (s.joiner.intercalate s.args)
  | "!" => s.background.map toString
  | "-" => some s.shownOptions
  | _ =>
    match name.toNat? with
    | some n => s.args[n - 1]?
    | none => s.value? name

/-- The number a variable holds; one that is not set holds zero. -/
def number? (s : Session) (name : String) : Except Arithmetic.Fault Int :=
  match s.parameter? name with
  | none => .ok 0
  | some text =>
    if text.toList.all (fun c => c = ' ' || c = '\t' || c = '\n') then .ok 0
    else
      match integer? text with
      | some n => .ok n
      | none => .error (.other ("Illegal number: " ++ text))

/-- Numbers kept in variables. -/
def arithmetic : Arithmetic.Variables Session :=
  { find := number?,
    assign := fun s name n =>
      match s.assign name (toString n) with
      | .ok s => .ok s
      | .error message => .error (.other message) }

/-- The call of a program from here. -/
def call (s : Session) (name : String) (args : List String) : Call :=
  ⟨name, args, s.directory, s.environment⟩

/-- The session of a shell that has split off: traps that do something are gone. -/
def splitOff (s : Session) : Session :=
  { s with traps := s.traps.filter (·.2 = ""), jobs := [], loops := 0 }

end Session

end GateRunner.Shell
