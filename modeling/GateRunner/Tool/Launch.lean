import GateRunner.Number.Notation
import GateRunner.Program.Filter
import GateRunner.Program.Options
import GateRunner.Program.Signal

/-!
# Programs that run others

`env`, `nice`, `nohup` and `timeout` run one program under some condition, and `xargs` runs a program for words that it
reads. `sleep` waits, `printenv` shows the variables that a program gets, and `which` tells where programs are.
-/

namespace GateRunner

/-! ## Durations and `sleep` -/

/-- How long, in microseconds, a program waits for ever. -/
def forEver : Nat := 1000000000000000

/-- A duration in microseconds: a number of seconds, or of what a letter after it says. -/
def durationMicros? (text : String) : Option Nat :=
  match text.toList with
  | '-' :: _ => none
  | cs =>
    if text.toLower ∈ ["inf", "infinity"] then some forEver
    else
      match Fraction.leading? cs with
      | none => none
      | some (x, rest) =>
        let unit : Option Nat := match rest with
          | [] | ['s'] => some 1
          | ['m'] => some 60
          | ['h'] => some 3600
          | ['d'] => some 86400
          | _ => none
        unit.map fun seconds => (x.num * seconds * 1000000 + x.den - 1) / x.den

/-- `sleep`: waits as long as its operands say together. -/
def sleepProgram : Tool := fun c =>
  if c.args.isEmpty then c.refuseWithHint "missing operand" 1
  else
    withOptions [] 1 (fun c o => do
      let bad := o.operands.filter fun text => (durationMicros? text).isNone
      match bad.getLast? with
      | some last =>
        bad.dropLast.forM fun text => c.complain ("invalid time interval " ++ quoted text)
        c.refuseWithHint ("invalid time interval " ++ quoted last) 1
      | none =>
        .pause ((o.operands.filterMap durationMicros?).foldl (· + ·) 0)
        return 0) c

/-! ## Turning into another program -/

/-- The status of a program that could not start another one. -/
def notStartedStatus (e : PathError) : Nat := if e = .notFound then 127 else 126

/-- Turns into a program, or complains. -/
def Call.turnInto (c : Call) (order : Order) (complaint : String → PathError → String) : Action Nat :=
  .become order fun e => do
    c.complain (complaint order.name e)
    return notStartedStatus e

/-- The order for a program with its arguments, and the variables of the one that calls it. -/
def Call.order (c : Call) (name : String) (args : List String) : Order := { name, args, environment := c.environment }

/-- Why a program could not be started, after its name. -/
def quotedFault (name : String) (e : PathError) : String := quoted name ++ ": " ++ e.text

/-- Why a program could not be started, in more words. -/
def failedToRun (name : String) (e : PathError) : String := "failed to run command " ++ quotedFault name e

/-- Variables with one given a value. -/
def withVariable (environment : List (String × String)) (name value : String) : List (String × String) :=
  if environment.any (·.1 = name) then environment.map fun v => if v.1 = name then (name, value) else v
  else environment ++ [(name, value)]

/-- An assignment by its text. -/
def assignmentOf? (text : String) : Option (String × String) :=
  let name := text.toList.takeWhile (· ≠ '=')
  if name.length = text.length then none
  else some (String.ofList name, String.ofList (text.toList.drop (name.length + 1)))

/-- The assignments at the front of arguments, and what follows them. -/
def leadingAssignments : List String → List (String × String) × List String
  | [] => ([], [])
  | arg :: rest =>
    match assignmentOf? arg with
    | some a => let (more, after) := leadingAssignments rest; (a :: more, after)
    | none => ([], arg :: rest)

/-- Variables, each as an assignment. -/
def environmentText (environment : List (String × String)) (ending : String) : String :=
  String.join (environment.map fun (name, value) => name ++ "=" ++ value ++ ending)

/-- `env`. -/
def envProgram : Tool := fun c =>
  let specs :=
    [flag 'i' "ignore-environment", flag '0' "null", valued 'u' "unset", valued 'C' "chdir",
      valued 'S' "split-string", flag 'v' "debug"]
  match readOptionsFrom specs true none c.args with
  | .error e => c.refuseWithHint e.message 125
  | .ok o => do
    let dash := o.operands.head? = some "-"
    let operands := if dash then o.operands.drop 1 else o.operands
    let words := ((o.value? 'S').getD "").splitOn " " |>.filter (· ≠ "")
    let (assignments, command) := leadingAssignments (words ++ operands)
    match (o.values 'u').find? (fun name => name = "" || name.toList.contains '=') with
    | some name => c.refuse ("cannot unset " ++ quoted name ++ ": Invalid argument") 125
    | none =>
      let start := if o.has 'i' || dash then [] else c.environment
      let kept := start.filter fun v => !(o.values 'u').contains v.1
      let environment := assignments.foldl (fun env (name, value) => withVariable env name value) kept
      match command with
      | [] =>
        .say (environmentText environment (if o.has '0' then "\x00" else "\n"))
        return 0
      | name :: args =>
        let disk ← .disk
        match (o.value? 'C').map fun d => (d, disk.entry? (c.path d)) with
        | some (d, .error e) => c.refuse ("cannot change directory to " ++ shellQuoted d ++ ": " ++ e.text) 125
        | target =>
          let directory := target.map fun (d, _) => c.path d
          .become { name, args, environment, directory } fun e => do
            c.complain (quotedFault name e)
            if name.toList.contains ' ' then c.complain "use -[v]S to pass options in shebang lines"
            return notStartedStatus e

/-- `printenv`. -/
def printenvProgram : Tool := fun c =>
  match readOptionsFrom [flag '0' "null"] true none c.args with
  | .error e => c.refuseWithHint e.message 2
  | .ok o => do
    let ending := if o.has '0' then "\x00" else "\n"
    if o.operands.isEmpty then
      .say (environmentText c.environment ending)
      return 0
    else
      let found := o.operands.map fun name => c.environment.lookup name
      .say (String.join (found.filterMap fun value => value.map (· ++ ending)))
      return statusOf (found.all Option.isSome)

/-- `nohup`. -/
def nohupProgram : Tool := fun c =>
  match readOptionsFrom [] true none c.args with
  | .error e => c.refuseWithHint e.message 125
  | .ok o =>
    match o.operands with
    | [] => c.refuseWithHint "missing operand" 125
    | name :: args => c.turnInto (c.order name args) failedToRun

/-- `nice`. No process goes before another one here, so that the number only has to be right. -/
def niceProgram : Tool := fun c =>
  let args := match c.args with
    | first :: rest =>
      match first.toList with
      | '-' :: d :: more => if d.isDigit then "-n" :: String.ofList (d :: more) :: rest else c.args
      | _ => c.args
    | [] => []
  match readOptionsFrom [valued 'n' "adjustment"] true none args with
  | .error e => c.refuseWithHint e.message 125
  | .ok o =>
    match o.value? 'n' with
    | some text =>
      if (integer? text).isNone then c.refuse ("invalid adjustment " ++ quoted text) 125 else go c o.operands
    | none => go c o.operands
where
  /-- Runs the program, if there is one. -/
  go (c : Call) : List String → Action Nat
    | [] => do
      .say "0\n"
      return 0
    | name :: args => c.turnInto (c.order name args) quotedFault

/-- `timeout`: tells a program to end after some time. -/
def timeoutProgram : Tool := fun c =>
  let specs :=
    [valued 's' "signal", valued 'k' "kill-after", flag '\x01' "preserve-status", flag '\x02' "foreground",
      flag 'v' "verbose"]
  match readOptionsFrom specs true none c.args with
  | .error e => c.refuseWithHint e.message 125
  | .ok o =>
    let hint : Action Nat := do
      .complain ("Try '" ++ c.name ++ " --help' for more information.")
      return 125
    match o.operands, signal? ((o.value? 's').getD "TERM") with
    | time :: name :: args, some signal =>
      match ([o.value? 'k'].filterMap id ++ [time]).find? (fun text => (durationMicros? text).isNone), durationMicros? time with
      | none, some micros => do
        let limit := if micros = 0 then none else some (micros, signal)
        match ← .run { c.order name args with limit } with
        | .ended state => return state.status
        | .overdue state =>
          if o.has 'v' then
            c.complain ("sending signal " ++ (signalNames.lookup signal).getD "" ++ " to command " ++ quoted name)
          return if o.has '\x01' || signal = 9 then state.status else 124
        | .notStarted e => c.refuse (failedToRun name e) (notStartedStatus e)
      | bad, _ => c.refuseWithHint ("invalid time interval " ++ quoted (bad.getD time)) 125
    | _ :: _ :: _, none => c.refuseWithHint (quoted ((o.value? 's').getD "") ++ ": invalid signal") 125
    | _, _ => hint

/-- `which`. -/
def whichProgram : Tool := fun c => do
  let all := c.args.head? = some "-a"
  let names := if all then c.args.drop 1 else c.args
  let disk ← .disk
  let isProgram (path : String) : Bool :=
    match disk.entry? (c.path path) with
    | .ok (.file _ status) => status.isExecutable
    | _ => false
  let found := names.map fun name =>
    let paths := if name.toList.contains '/' then [name]
      else (((c.environment.lookup "PATH").getD "").splitOn ":").map fun d => d ++ "/" ++ name
    let there := paths.filter isProgram
    if all then there else there.take 1
  .say (ofLines found.flatten)
  return if names.isEmpty || found.any List.isEmpty then 1 else 0

/-! ## `xargs` -/

/-- How the words that `xargs` reads are told apart. -/
inductive WordStyle
  /-- By white space, quotes keeping words together. -/
  | words
  /-- By lines, in which quotes have their meaning too. -/
  | lines
  /-- By one character, nothing else having a meaning. -/
  | separated (c : Char)

/-- A word that was read, and whether it is the last one of its line. -/
structure ReadWord where
  text : String
  endsLine : Bool

/-- Where the reading of words is: between words, within one, or within a quoted part of one. -/
inductive WordState
  | between
  | within (text : List Char)
  | inQuotes (quote : Char) (text : List Char)

/-- A word from its characters in reverse order. -/
def ReadWord.ofReversed (text : List Char) (endsLine : Bool) : ReadWord := ⟨String.ofList text.reverse, endsLine⟩

/-- Whether a character separates words. -/
def isWordSpace (c : Char) : Bool := c = ' ' || (9 ≤ c.toNat && c.toNat ≤ 13)

/-- Reads words; gives them, and the quote that was not closed if there is one. A line goes on after one that ends in
a blank. -/
def readWords (byLines : Bool) : WordState → List Char → List ReadWord × Option Char
  | .between, [] => ([], none)
  | .within text, [] => ([.ofReversed text true], none)
  | .inQuotes quote _, [] => ([], some quote)
  | .inQuotes quote text, c :: rest =>
    if c = '\n' then ([], some quote)
    else if c = quote then readWords byLines (.within text) rest
    else readWords byLines (.inQuotes quote (c :: text)) rest
  | .between, c :: rest =>
    if isWordSpace c then readWords byLines .between rest
    else if c = '\'' || c = '"' then readWords byLines (.inQuotes c []) rest
    else if c = '\\' then
      match rest with
      | d :: rest => readWords byLines (.within [d]) rest
      | [] => ([⟨"", true⟩], none)
    else readWords byLines (.within [c]) rest
  | .within text, c :: rest =>
    if c = '\n' then
      let (more, bad) := readWords byLines .between rest
      (.ofReversed text true :: more, bad)
    else if !byLines && isWordSpace c then
      let ends := (rest.dropWhile fun d => d = ' ' || d = '\t').isEmpty
      let (more, bad) := readWords byLines .between rest
      (.ofReversed text ends :: more, bad)
    else if c = '\'' || c = '"' then readWords byLines (.inQuotes c text) rest
    else if c = '\\' then
      match rest with
      | d :: rest => readWords byLines (.within (d :: text)) rest
      | [] => ([.ofReversed text true], none)
    else readWords byLines (.within (c :: text)) rest

/-- The words of a text. -/
def wordsOf (style : WordStyle) (text : String) : List ReadWord × Option Char :=
  match style with
  | .words => readWords false .between text.toList
  | .lines => readWords true .between text.toList
  | .separated c =>
    let parts := text.splitOn (String.singleton c)
    let parts := if parts.getLast? = some "" then parts.dropLast else parts
    (parts.map fun part => ⟨part, true⟩, none)

/-- How many words go into one run. -/
structure BatchLimit where
  words : Option Nat
  lines : Option Nat
  size : Nat

/-- Words in groups, each as great as the limits allow; the first group may have begun already. -/
def batches (l : BatchLimit) (base : Nat) : List String → Nat → Nat → List ReadWord → List (List String)
  | [], _, _, [] => []
  | held, _, _, [] => [held.reverse]
  | held, lines, size, w :: rest =>
    let more := size + w.text.length + 1
    let isFull := !held.isEmpty && (l.words.any (· ≤ held.length) || l.lines.any (· ≤ lines) || l.size < more)
    if isFull then
      held.reverse :: batches l base [w.text] (if w.endsLine then 1 else 0) (base + w.text.length + 1) rest
    else batches l base (w.text :: held) (lines + if w.endsLine then 1 else 0) more rest

/-- A text with each occurrence of another one replaced. -/
def replaceAll (what with_ text : String) : String := if what = "" then text else with_.intercalate (text.splitOn what)

/-- How the runs of `xargs` have gone. -/
inductive RunsEnd
  | through (status : Nat)
  | aborted (status : Nat)

/-- Runs a program with one list of arguments after the other. -/
def runEach (c : Call) (traced : Bool) (name : String) : Nat → List (List String) → Action RunsEnd
  | status, [] => return .through status
  | status, args :: rest => do
    if traced then .complain (" ".intercalate ((name :: args).map shownName))
    match ← .run (c.order name args) with
    | .notStarted e =>
      c.complain (name ++ ": " ++ e.text)
      return .aborted (notStartedStatus e)
    | .overdue state | .ended state =>
      match state with
      | .signal n =>
        c.complain (name ++ ": terminated by signal " ++ toString n)
        return .aborted 125
      | .code 0 => runEach c traced name status rest
      | .code 255 =>
        c.complain (name ++ ": exited with status 255; aborting")
        return .aborted 124
      | .code _ => runEach c traced name 123 rest

/-- A count that an option gives, or what is wrong with it. -/
def optionCount (o : Options) (letter : Char) : Except String (Option Nat) :=
  match o.value? letter with
  | none => .ok none
  | some "" => .ok (some 1)
  | some text =>
    match wholeNatural? text with
    | some 0 =>
      if letter = 'P' then .ok (some 0)
      else .error ("value 0 for -" ++ String.singleton letter ++ " option should be >= 1")
    | some n => .ok (some n)
    | none => .error ("invalid number \"" ++ text ++ "\" for -" ++ String.singleton letter ++ " option")

/-- The greatest size of the arguments of one run. -/
def argumentLimit : Nat := 129024

/-- The character that an argument means, which may be written as an escape. -/
def separatorOf (text : String) : Char :=
  match text.toList with
  | ['\\', 'n'] => '\n'
  | ['\\', 't'] => '\t'
  | ['\\', '0'] => '\x00'
  | ['\\', '\\'] => '\\'
  | c :: _ => c
  | [] => '\n'

/-- `xargs`. -/
def xargsProgram : Tool := fun c =>
  let specs :=
    [flag '0' "null", valued 'a' "arg-file", valued 'd' "delimiter", valued 'E' "", ⟨'e', "eof", true, true⟩,
      valued 'I' "", ⟨'i', "replace", true, true⟩, valued 'L' "", ⟨'l', "max-lines", true, true⟩,
      valued 'n' "max-args", flag 'o' "open-tty", valued 'P' "max-procs", flag 'p' "interactive",
      flag 'r' "no-run-if-empty", valued 's' "max-chars", flag 't' "verbose", flag 'x' "exit"]
  match readOptionsFrom specs true none c.args with
  | .error e => c.refuseWithHint e.message 1
  | .ok o => do
    let counts := do
      let n ← optionCount o 'n'
      let lines ← optionCount o 'L'
      let s ← optionCount o 's'
      let _ ← optionCount o 'P'
      return (n, lines, s)
    match counts with
    | .error message => c.refuseWithHint message 1
    | .ok (n, lines, s) =>
      let mode := o.last? ['I', 'i', 'L', 'l', 'n']
      let replaced := match mode with
        | some 'I' => o.value? 'I'
        | some 'i' => (o.value? 'i').map fun text => if text = "" then "\x7b\x7d" else text
        | _ => none
      let style : WordStyle := match o.last? ['0', 'd'] with
        | some '0' => .separated '\x00'
        | some _ => .separated (separatorOf ((o.value? 'd').getD ""))
        | none => if replaced.isSome then .lines else .words
      let input ← match o.value? 'a' with
        | some file => c.file file
        | none => do pure (Except.ok (← Action.allInput))
      match input with
      | .error e => c.refuse ("Cannot open input file " ++ quoted ((o.value? 'a').getD "") ++ ": " ++ e.text) 1
      | .ok text =>
        let (words, open_) := wordsOf style text
        let words := match (o.value? 'E').orElse fun _ => o.value? 'e' with
          | some stop => if stop = "" then words else words.takeWhile (·.text ≠ stop)
          | none => words
        let (name, initial) := match o.operands with
          | [] => ("echo", [])
          | name :: args => (name, args)
        let runs : List (List String) := match replaced with
          | some mark => words.map fun w => initial.map (replaceAll mark w.text)
          | none =>
            let base := ((name :: initial).map fun a => a.length + 1).foldl (· + ·) 0
            let limit : BatchLimit :=
              ⟨if mode = some 'n' then n else none,
                if mode = some 'L' then lines else if mode = some 'l' then some (((o.value? 'l').bind wholeNatural?).getD 1)
                  else none,
                s.getD argumentLimit⟩
            let groups := batches limit base [] 0 base words
            let groups := if groups.isEmpty && !o.has 'r' && open_.isNone then [[]] else groups
            groups.map (initial ++ ·)
        match ← runEach c (o.has 't') name 0 runs with
        | .aborted status => return status
        | .through status =>
          match open_ with
          | some quote =>
            c.refuse ("unmatched " ++ (if quote = '"' then "double" else "single") ++
              " quote; by default quotes are special to xargs unless you use the -0 option") 1
          | none => return status

end GateRunner
