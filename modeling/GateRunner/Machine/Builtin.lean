import GateRunner.Machine.Start

/-!
# The shell's own commands

Most of these change the session that calls them, and are given as actions that end with the session as it is then. The
commands that run others, or have to do with other processes, are carried out elsewhere.
-/

namespace GateRunner.Machine

open Shell

/-- A command of the shell's own: what it does in a session with its arguments. -/
abbrev Builtin := Session → List String → Action Reply

/-- Done, with a status. -/
def leaveWith (s : Session) (status : Nat) : Action Reply := return .came (s.withStatus status)

/-- Done, with something said. -/
def sayAndLeave (s : Session) (text : String) (status : Nat) : Action Reply := do
  .say text
  leaveWith s status

/-- Done, with a message. -/
def warn (s : Session) (message : String) (status : Nat) : Action Reply :=
  .write 2 (s.messageFront ++ message ++ "\n") (leaveWith s status)

/-- Given up, with a message. -/
def giveUp (s : Session) (message : String) : Action Reply :=
  .write 2 (s.messageFront ++ message ++ "\n") (.done (.raised .error (s.withStatus 2)))

/-- The letters of options at the front of arguments, those with a value together with it, and what follows. -/
def letters (known withValue : List Char) : List String → Except String (List (Char × String) × List String)
  | [] => .ok ([], [])
  | arg :: rest =>
    if arg = "--" then .ok ([], rest)
    else if !arg.startsWith "-" || arg = "-" then .ok ([], arg :: rest)
    else
      match (arg.toList.drop 1).findIdx? (fun c => withValue.contains c || !known.contains c) with
      | none => (letters known withValue rest).map fun (more, rest) =>
          ((arg.toList.drop 1).map (·, "") ++ more, rest)
      | some i =>
        let before := (arg.toList.drop 1).take i |>.map fun c => (c, "")
        match (arg.toList.drop 1).drop i with
        | [] => .ok (before, rest)
        | c :: value =>
          if !withValue.contains c then .error ("Illegal option -" ++ String.singleton c)
          else if !value.isEmpty then (letters known withValue rest).map fun (more, rest) =>
            (before ++ (c, String.ofList value) :: more, rest)
          else
            match rest with
            | [] => .error ("No arg for -" ++ String.singleton c ++ " option")
            | value :: rest => (letters known withValue rest).map fun (more, rest) =>
                (before ++ (c, value) :: more, rest)

/-- A command by what it does with its options and operands. -/
def withLetters (known withValue : List Char)
    (body : Session → List (Char × String) → List String → Action Reply) : Builtin := fun s args =>
  match letters known withValue args with
  | .ok (given, rest) => body s given rest
  | .error message => giveUp s message

/-- A natural that an argument stands for. -/
def natural? (text : String) : Option Nat :=
  if text ≠ "" && text.toList.all Char.isDigit then some (digitsValue 10 text.toList) else none

/-- The complaint about an argument that is no number. -/
def illegalNumber (text : String) : String := "Illegal number: " ++ text

/-- A text between single quotes; single quotes in it stand between double ones. -/
def singleQuoted (text : String) : String := "'" ++ "'\"'\"'".intercalate (text.splitOn "'") ++ "'"

/-- The declarations that give variables their values, after a word. -/
def declarations (word : String) (bindings : List Variable) : String :=
  let sorted := bindings.mergeSort fun a b => a.name ≤ b.name
  ofLines (sorted.map fun v => word ++ v.name ++ (match v.value with
    | some value => "=" ++ singleQuoted value
    | none => ""))

/-- The name and the value in a declaration. -/
def declared (arg : String) : String × Option String :=
  let name := arg.toList.takeWhile (· ≠ '=')
  (String.ofList name,
    if name.length < arg.length then some (String.ofList (arg.toList.drop (name.length + 1))) else none)

/-- A variable marked, after it has been given a value if there is one. -/
def markVariable (mark : Variable → Variable) (s : Session) (arg : String) : Except String Session := do
  let (name, value) := declared arg
  if !isName name then throw (name ++ ": bad variable name")
  let s ← match value with
    | some value => s.assign name value
    | none => pure s
  return s.putVariable (mark ((s.binding? name).getD ⟨name, none, false, false⟩))

/-- Goes on with a session if it could be changed. -/
def leaveOr (s : Session) (result : Except String Session) : Action Reply :=
  match result with
  | .ok s => leaveWith s 0
  | .error message => giveUp s message

/-- `export` and `readonly`. -/
def declareCommand (word : String) (mark : Variable → Variable) (shown : Variable → Bool) : Builtin :=
  withLetters ['p'] [] fun s given args =>
    if !given.isEmpty || args.isEmpty then sayAndLeave s (declarations (word ++ " ") (s.bindings.filter shown)) 0
    else leaveOr s (args.foldlM (markVariable mark) s)

/-- `unset`. -/
def unsetCommand : Builtin := withLetters ['v', 'f'] [] fun s given args =>
  let ofFunctions := (given.getLast?.map (·.1)) = some 'f'
  leaveOr s (args.foldlM (fun s name =>
    if ofFunctions then .ok { s with functions := s.functions.filter (·.1 ≠ name) }
    else if !isName name then .error (name ++ ": bad variable name")
    else s.unassign name) s)

/-- `local`. -/
def localCommand : Builtin := fun s args =>
  if s.hidden.isEmpty then giveUp s "not in a function"
  else
    leaveOr s (args.foldlM (fun s arg =>
      let (name, value) := declared arg
      if name = "-" then .ok s
      else if !isName name then .error (name ++ ": bad variable name")
      else
        let s := s.hide name
        match value with
        | some value => s.assign name value
        | none => .ok s) s)

/-- The settings of options, one on a line. -/
def shownSettings (s : Session) : String :=
  "Current option settings\n" ++ ofLines (optionNames.map fun (c, name) =>
    name ++ String.ofList (List.replicate (16 - name.length) ' ') ++ if s.on c then "on" else "off")

/-- The settings of options as commands. -/
def settingCommands (s : Session) : String :=
  ofLines (optionNames.map fun (c, name) => "set " ++ (if s.on c then "-o " else "+o ") ++ name)

/-- `set`, by one argument after the other. What is said on the way comes with the session. -/
def setOptions : Session → Nat → Bool → List String → Except String (Session × String)
  | s, names + 1, value, name :: rest =>
    match optionNamed? name with
    | some c => setOptions (s.switch c value) names value rest
    | none => .error ("Illegal option -o " ++ name)
  | s, _ + 1, value, [] => .ok (s, if value then shownSettings s else settingCommands s)
  | s, 0, _, [] => .ok (s, "")
  | s, 0, _, arg :: rest =>
    if arg = "--" then .ok ({ s with args := rest }, "")
    else if arg = "-" then
      let s := (s.switch 'x' false).switch 'v' false
      .ok (if rest.isEmpty then s else { s with args := rest }, "")
    else if (arg.startsWith "-" || arg.startsWith "+") && 1 < arg.length then
      let value := arg.startsWith "-"
      let known (c : Char) : Bool := c = 'o' || ((optionNames.map (·.1)).contains c && 32 < c.toNat)
      match (arg.toList.drop 1).find? (fun c => !known c) with
      | some c => .error ("Illegal option -" ++ String.singleton c)
      | none =>
        let s := ((arg.toList.drop 1).filter (· ≠ 'o')).foldl (fun s c => s.switch c value) s
        setOptions s ((arg.toList.drop 1).count 'o') value rest
    else .ok ({ s with args := arg :: rest }, "")

/-- `set`. -/
def setCommand : Builtin := fun s args =>
  if args.isEmpty then sayAndLeave s (declarations "" (s.bindings.filter (·.value.isSome))) 0
  else
    match setOptions s 0 true args with
    | .ok (s, text) => sayAndLeave s text 0
    | .error message => giveUp s message

/-- `shift`. -/
def shiftCommand : Builtin := fun s args =>
  match args with
  | [] => if s.args.isEmpty then giveUp s "can't shift that many" else leaveWith { s with args := s.args.drop 1 } 0
  | text :: _ =>
    match natural? text with
    | none => giveUp s (illegalNumber text)
    | some n =>
      if s.args.length < n then giveUp s "can't shift that many"
      else leaveWith { s with args := s.args.drop n } 0

/-- The names of a path without those that lead nowhere; two points take the name before them away. -/
def plainWay (names : List String) : List String :=
  (names.foldl (fun way name =>
    if name = "" || name = "." then way else if name = ".." then way.tail else name :: way) []).reverse

/-- `cd`. -/
def cdCommand : Builtin := withLetters ['L', 'P'] [] fun s given args => do
  let disk ← Action.disk
  let physical := (given.getLast?.map (·.1)) = some 'P'
  let back := args.head? = some "-"
  let wanted := match args with
    | [] => (s.value? "HOME").getD ""
    | "-" :: _ => (s.value? "OLDPWD").getD s.wayHere
    | name :: _ => name
  let target := if wanted = "" then "." else wanted
  let way := "/" ++ "/".intercalate (plainWay (splitPath (joinPath s.wayHere target)))
  let path := if physical then joinPath s.directory (Bytes.toText target) else Bytes.toText way
  match disk.locate path with
  | .ok (.taken place (.dir _)) =>
    let directory := "/" ++ "/".intercalate place
    let wayHere := if physical then Bytes.ofText directory else way
    let old : Variable := ⟨"OLDPWD", some s.wayHere, true, false⟩
    let here : Variable := ⟨"PWD", some wayHere, true, false⟩
    let s := { (s.putVariable old).putVariable here with directory, wayHere }
    sayAndLeave s (if back then wayHere ++ "\n" else "") 0
  | _ => giveUp s ("can't cd to " ++ wanted)

/-- `pwd`. -/
def pwdCommand : Builtin := withLetters ['L', 'P'] [] fun s given _ =>
  let physical := (given.getLast?.map (·.1)) = some 'P'
  sayAndLeave s ((if physical then Bytes.ofText s.directory else s.wayHere) ++ "\n") 0

/-- Characters of a line with marks for those after a backslash. Joined lines are read on. -/
def readMarked : Nat → Bool → List (Char × Bool) → List Char → Action (List (Char × Bool) × Bool)
  | 0, _, seen, _ => return (seen.reverse, false)
  | _, _, seen, [] => return (seen.reverse, false)
  | fuel + 1, raw, seen, c :: rest =>
    if c = '\n' then return (seen.reverse, true)
    else if c.toNat = 0 then readMarked fuel raw seen rest
    else if c = '\\' && !raw then
      match rest with
      | '\n' :: _ => .line fun more => readMarked fuel raw seen more.toList
      | d :: rest => readMarked fuel raw ((d, true) :: seen) rest
      | [] => return (seen.reverse, false)
    else readMarked fuel raw ((c, false) :: seen) rest

/-- Blanks that separate, dropped at the front of marked characters. -/
def dropBlanks (separators : List Char) (m : List (Char × Bool)) : List (Char × Bool) :=
  m.dropWhile fun (c, marked) => !marked && separators.contains c && (c = ' ' || c = '\t' || c = '\n')

/-- What is left of a line for the last variable: blanks at its end are dropped, and so is a separator there if it is
the only one. -/
def lastField (separators : List Char) (m : List (Char × Bool)) : List (Char × Bool) :=
  let trimmed := (dropBlanks separators m.reverse).reverse
  let isSeparator (c : Char × Bool) : Bool := !c.2 && separators.contains c.1
  let front := trimmed.takeWhile (fun c => !isSeparator c)
  match trimmed.drop front.length with
  | [] => front
  | [_] => front
  | after =>
    let rest := dropBlanks separators after
    match rest with
    | [only] => if isSeparator only then front else trimmed
    | _ => trimmed

/-- The first fields of a line, and what is left for the last of some variables. -/
def lineFields (separators : List Char) : Nat → List (Char × Bool) → List String
  | 0, _ => []
  | 1, m => [String.ofList ((lastField separators (dropBlanks separators m)).map (·.1))]
  | n + 2, m =>
    let m := dropBlanks separators m
    let isSeparator (c : Char × Bool) : Bool := !c.2 && separators.contains c.1
    let field := m.takeWhile (fun c => !isSeparator c)
    let rest := dropBlanks separators (m.drop field.length)
    let ended := (m.drop field.length).head?
    let rest := match rest with
      | c :: more => if isSeparator c then dropBlanks separators more else rest
      | [] => []
    let rest := match ended with
      | none => []
      | some _ => rest
    String.ofList (field.map (·.1)) :: lineFields separators (n + 1) rest

/-- `read`. -/
def readCommand : Builtin := withLetters ['r', 'p'] ['p'] fun s given names => do
  if names.isEmpty then giveUp s "arg count"
  else
    .line fun text => do
      let (m, ended) ← readMarked (text.length + 100000) (given.any (·.1 = 'r')) [] text.toList
      let fields := lineFields s.separators.toList names.length m
      let given := names.zip (fields ++ List.replicate names.length "")
      let result := given.foldlM (fun (s : Session) (name, value) =>
        if isName name then s.assign name value else .error (name ++ ": bad variable name")) s
      match result with
      | .ok s => leaveWith s (if ended then 0 else 1)
      | .error message => giveUp s message

/-- How reading options goes on: the arguments passed, the place in the argument at work, the letter, its value if it
has one, and what is said. -/
structure OptionStep where
  passed : Nat
  offset : Option Nat
  letter : String
  value : Option String
  said : String
  done : Bool

/-- The next option of some arguments, read from a number of them on and from a place in the one before. -/
def optionStep (spec : String) (args : List String) (passed : Nat) (offset : Option Nat) : OptionStep :=
  let current := (args[passed - 1]?).getD ""
  let within := match offset with
    | some off => if passed = 0 || current.length < off then [] else current.toList.drop off
    | none => []
  let quiet := spec.startsWith ":"
  let go (c : Char) (rest : List Char) (passed : Nat) : OptionStep :=
    let at_ := (((args[passed - 1]?).getD "").length) - rest.length
    match (spec.toList.dropWhile (· ≠ c)), c with
    | [], _ | _, ':' =>
      ⟨passed, if rest.isEmpty then none else some at_, "?", if quiet then some (.singleton c) else none,
        if quiet then "" else "Illegal option -" ++ String.singleton c ++ "\n", false⟩
    | _ :: ':' :: _, _ =>
      if !rest.isEmpty then ⟨passed, none, .singleton c, some (String.ofList rest), "", false⟩
      else
        match args[passed]? with
        | some value => ⟨passed + 1, none, .singleton c, some value, "", false⟩
        | none =>
          if quiet then ⟨passed, none, ":", some (.singleton c), "", false⟩
          else ⟨passed, none, "?", none, "No arg for -" ++ String.singleton c ++ " option\n", false⟩
    | _, _ => ⟨passed, if rest.isEmpty then none else some at_, .singleton c, some "", "", false⟩
  match within with
  | c :: rest => go c rest passed
  | [] =>
    match (args[passed]?).map String.toList with
    | some ['-', '-'] => ⟨passed + 1, none, "?", none, "", true⟩
    | some ('-' :: c :: rest) => go c rest (passed + 1)
    | _ => ⟨passed, none, "?", none, "", true⟩

/-- `getopts`. -/
def getoptsCommand : Builtin := fun s args =>
  match args with
  | spec :: name :: given =>
    let operands := if given.isEmpty then s.args else given
    let index := (((s.value? "OPTIND").bind natural?).getD 1)
    let index := if index = 0 || operands.length + 1 < index then 1 else index
    let step := optionStep spec operands (index - 1) s.optionOffset
    let result : Except String Session := do
      let s ← if step.done then pure s
        else match step.value with
          | some value => s.assign "OPTARG" value
          | none => s.unassign "OPTARG"
      let s ← s.assign "OPTIND" (toString (step.passed + 1))
      if !isName name then throw (name ++ ": bad variable name")
      let s ← s.assign name step.letter
      return { s with optionOffset := step.offset }
    .write 2 step.said
      (match result with
      | .ok s => leaveWith s (if step.done then 1 else 0)
      | .error message => giveUp s message)
  | _ => giveUp s "Usage: getopts optstring var [arg...]"

/-- `trap`. -/
def trapCommand : Builtin := withLetters [] [] fun s _ args =>
  let set (action : Option String) (names : List String) : Action Reply :=
    let (s, bad) := names.foldl (fun (s, bad) name =>
      match bad, signal? name with
      | some _, _ => (s, bad)
      | none, none => (s, some name)
      | none, some n =>
        let kept := s.traps.filter (·.1 ≠ n)
        let traps := match action with
          | none | some "-" => kept
          | some action => kept ++ [(n, action)]
        ({ s with traps }, none)) (s, (none : Option String))
    match bad with
    | some name => .write 2 ("trap: " ++ name ++ ": bad trap\n") (leaveWith s 1)
    | none => leaveWith s 0
  match args with
  | [] =>
    let sorted := s.traps.mergeSort fun a b => a.1 ≤ b.1
    sayAndLeave s (ofLines (sorted.map fun (n, action) =>
      "trap -- " ++ singleQuoted action ++ " " ++ (signalNames.lookup n).getD (toString n))) 0
  | [name] => set none [name]
  | first :: rest => if (natural? first).isSome then set none (first :: rest) else set (some first) rest

/-- `alias`. -/
def aliasCommand : Builtin := fun s args =>
  let shown (a : String × String) : String := a.1 ++ "=" ++ singleQuoted a.2
  if args.isEmpty then
    sayAndLeave s (ofLines ((s.aliases.mergeSort fun a b => a.1 ≤ b.1).map shown)) 0
  else do
    let rec go (s : Session) (status : Nat) : List String → Action Reply
      | [] => leaveWith s status
      | arg :: rest =>
        match declared arg with
        | (name, some meaning) =>
          go { s with aliases := (name, meaning) :: s.aliases.filter (·.1 ≠ name) } status rest
        | (name, none) =>
          match s.aliases.lookup name with
          | some meaning => do
            .say (shown (name, meaning) ++ "\n")
            go s status rest
          | none => do
            .complain ("alias: " ++ name ++ " not found")
            go s 1 rest
    go s 0 args

/-- `unalias`. -/
def unaliasCommand : Builtin := withLetters ['a'] [] fun s given args =>
  if !given.isEmpty then leaveWith { s with aliases := [] } 0
  else do
    let missing := args.filter fun name => (s.aliases.lookup name).isNone
    missing.forM fun name => Action.complain ("unalias: " ++ name ++ " not found")
    leaveWith { s with aliases := s.aliases.filter fun a => !args.contains a.1 } (if missing.isEmpty then 0 else 1)

/-- The number of a mask of permissions, in octal notation or by letters. -/
def maskOf? (text : String) : Option Nat :=
  if text.toList.all isOctal then some (digitsValue 8 text.toList % 512) else none

/-- A mask of permissions in octal notation. -/
def maskText (mask : Nat) : String :=
  let digits := String.ofList (Nat.toDigits 8 mask)
  String.ofList (List.replicate (4 - digits.length) '0') ++ digits

/-- `umask`. The mask is kept in the session. -/
def umaskCommand : Builtin := withLetters ['S'] [] fun s given args =>
  match args with
  | [] =>
    if given.isEmpty then sayAndLeave s (maskText s.mask ++ "\n") 0
    else
      let letters (bits : Nat) : String :=
        (if bits &&& 4 = 0 then "r" else "") ++ (if bits &&& 2 = 0 then "w" else "") ++ if bits &&& 1 = 0 then "x" else ""
      sayAndLeave s ("u=" ++ letters (s.mask / 64) ++ ",g=" ++ letters (s.mask / 8 % 8) ++ ",o=" ++ letters (s.mask % 8)
        ++ "\n") 0
  | text :: _ =>
    match maskOf? text with
    | some mask => leaveWith { s with mask } 0
    | none => if (text.toList.head?.any Char.isDigit) then giveUp s (illegalNumber text) else leaveWith s 0

/-- The kinds of commands that a name can mean. -/
inductive Meaning
  | keyword
  | synonym (meaning : String)
  | special
  | function
  | own
  | program (path : String)
  | unknown

/-- The shell's own commands that are no more than that. -/
def plainBuiltins : List String :=
  ["[", "alias", "bg", "cd", "chdir", "command", "echo", "false", "fg", "getopts", "hash", "jobs", "kill", "printf",
    "pwd", "read", "test", "true", "type", "ulimit", "umask", "unalias", "wait"]

/-- What a name means to the shell. -/
def meaningOf (disk : Disk) (s : Session) (name : String) : Meaning :=
  if (Keyword.table.lookup name).isSome then .keyword
  else
    match s.aliases.lookup name with
    | some meaning => .synonym meaning
    | none =>
      if name ∈ specialBuiltins then .special
      else if (s.functions.lookup name).isSome then .function
      else if name ∈ plainBuiltins then .own
      else
        let searchPath := (s.value? "PATH").getD standardPath
        match search disk s.directory searchPath name with
        | .ok path =>
          match programAt disk (joinPath s.directory (Bytes.toText path)) with
          | .ok _ | .error .notExecutable => .program path
          | .error _ => .unknown
        | .error _ => .unknown

/-- A name with its meaning in words. -/
def describe (name : String) : Meaning → Option String
  | .keyword => some (name ++ " is a shell keyword")
  | .synonym meaning => some (name ++ " is an alias for " ++ meaning)
  | .special => some (name ++ " is a special shell builtin")
  | .function => some (name ++ " is a shell function")
  | .own => some (name ++ " is a shell builtin")
  | .program path => some (name ++ " is " ++ path)
  | .unknown => none

/-- `type`. -/
def typeCommand : Builtin := withLetters [] [] fun s _ args => do
  let disk ← Action.disk
  let found := args.map fun name => (name, describe name (meaningOf disk s name))
  sayAndLeave s (ofLines (found.map fun (name, text) => text.getD (name ++ ": not found")))
    (if found.all (·.2.isSome) then 0 else 127)

/-- `command -v` and `command -V`. -/
def whichCommand (verbose : Bool) (s : Session) (args : List String) : Action Reply := do
  let disk ← Action.disk
  match args with
  | [] => leaveWith s 0
  | name :: _ =>
    let meaning := meaningOf disk s name
    if verbose then
      sayAndLeave s ((describe name meaning).getD (name ++ ": not found") ++ "\n")
        (match meaning with
        | .unknown => 127
        | _ => 0)
    else
      match meaning with
      | .unknown => leaveWith s 127
      | .synonym meaning => sayAndLeave s ("alias " ++ name ++ "=" ++ singleQuoted meaning ++ "\n") 0
      | .program path => sayAndLeave s (path ++ "\n") 0
      | _ => sayAndLeave s (name ++ "\n") 0

/-- `hash`. -/
def hashCommand : Builtin := withLetters ['r'] [] fun s _ args => do
  let disk ← Action.disk
  let missing := args.filter fun name =>
    match meaningOf disk s name with
    | .unknown => true
    | _ => false
  missing.forM fun name => Action.complain (s.messageFront ++ name ++ ": not found")
  leaveWith s (if missing.isEmpty then 0 else 1)

/-- A tool as a command of the shell's own. -/
def ofTool (t : Tool) (name : String) : Builtin := fun s args => do
  let status ← t (s.call name args)
  return .came (s.withStatus status)

/-- `test` and `[`. -/
def testCommand (name : String) : Builtin := fun s args => do
  let status ← testWith false (s.call name args)
    (fun text => do
      Action.complain (s.messageFront ++ text)
      return 2)
    (fun _ fault => fault.inShell) "missing ]"
  return .came (s.withStatus status)

/-- `printf`. -/
def printfCommand : Builtin := withLetters [] [] fun s _ args =>
  match args with
  | [] => giveUp s "usage: printf format [arg ...]"
  | format :: args => do
    let front := s.messageFront
    let status ← printfWith .shell (String.ofList (front.toList.take (front.length - 2))) format args
    return .came (s.withStatus status)

/-- The commands of the shell's own that need nothing but a session. -/
def builtins : List (String × Builtin) :=
  [(":", fun s _ => leaveWith s 0), ("true", fun s _ => leaveWith s 0), ("false", fun s _ => leaveWith s 1),
    ("echo", ofTool echoInShell "echo"), ("printf", printfCommand), ("test", testCommand "test"),
    ("[", testCommand "["), ("pwd", pwdCommand), ("cd", cdCommand), ("chdir", cdCommand),
    ("export", declareCommand "export" (fun v => { v with exported := true }) (·.exported)),
    ("readonly", declareCommand "readonly" (fun v => { v with readOnly := true }) (·.readOnly)),
    ("unset", unsetCommand), ("local", localCommand), ("set", setCommand), ("shift", shiftCommand),
    ("read", readCommand), ("getopts", getoptsCommand), ("trap", trapCommand), ("alias", aliasCommand),
    ("unalias", unaliasCommand), ("umask", umaskCommand), ("type", typeCommand), ("hash", hashCommand),
    ("times", fun s _ => sayAndLeave s "0m0.000000s 0m0.000000s\n0m0.000000s 0m0.000000s\n" 0),
    ("ulimit", fun s args => sayAndLeave s (if args.length ≤ 1 then "unlimited\n" else "") 0),
    ("fg", fun s _ => giveUp s "No current job"), ("bg", fun s _ => giveUp s "No current job")]

end GateRunner.Machine
