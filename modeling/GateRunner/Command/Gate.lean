import GateRunner.Check.Behaviour
import GateRunner.Command.Process
import GateRunner.Config.Settings
import GateRunner.Pattern.Reader

/-!
# Checks that run a command

A command check runs a program and judges how it ends. The gate is met when the program exits with the code expected
and its output does not match the pattern for failures; a match of the pattern for warnings then makes the result a
warning. A program that does not start or does not end in time is an error: the gate could not be evaluated.

What was written on the two channels is decoded for each by itself, messages after output. The settings of the gate can
replace the arguments and the time limit.
-/

namespace GateRunner

/-- A pattern for output: its text, and the test it stands for. -/
structure Matcher where
  source : String
  test : String → Bool

/-- The pattern of a text, if it is one. -/
def Matcher.ofSource? (source : String) : Option Matcher :=
  (Pattern.parse? source).map fun p => ⟨source, p.matchesText⟩

/-- Why a command check cannot be made. -/
inductive CommandError
  | missingProgram (check : CheckId)
  | invalidPattern (source : String)
deriving DecidableEq, Repr

/-- The wording of an error. -/
def CommandError.message : CommandError → String
  | .missingProgram check => "command check " ++ check.written ++ " has no program"
  | .invalidPattern source => "invalid output pattern: " ++ source

/-- What is wanted of a command check, before it is known whether it can be made. -/
structure CommandDraft where
  id : CheckId
  title : Option String
  program : String
  args : List String
  dependencies : List CheckId
  markers : List String
  remedy : Option (String × List String)
  timeLimit : Duration
  expectedCode : Int
  failWhen : Option String
  warnWhen : Option String
  advice : Option String

/-- The time limit where none is set. -/
def defaultTimeLimit : Duration := .fiveMinutes

/-- A draft with nothing but an id. -/
def CommandDraft.ofId (id : CheckId) : CommandDraft :=
  { id, title := none, program := "", args := [], dependencies := [], markers := [], remedy := none,
    timeLimit := defaultTimeLimit, expectedCode := 0, failWhen := none, warnWhen := none, advice := none }

/-- A check that runs a command. -/
structure CommandGate where
  id : CheckId
  title : String
  program : String
  args : List String
  dependencies : List CheckId
  markers : List String
  remedy : Option (String × List String)
  timeLimit : Duration
  expectedCode : Int
  failWhen : Option Matcher
  warnWhen : Option Matcher
  advice : Option String

/-- A pattern that may be missing. -/
def matcherOf? : Option String → Except CommandError (Option Matcher)
  | none => .ok none
  | some source =>
    match Matcher.ofSource? source with
    | some m => .ok (some m)
    | none => .error (.invalidPattern source)

/-- The check of a draft: it has to have a program, and patterns that are patterns. -/
def CommandDraft.toGate (d : CommandDraft) : Except CommandError CommandGate :=
  if d.program = "" then .error (.missingProgram d.id)
  else do
    let failWhen ← matcherOf? d.failWhen
    let warnWhen ← matcherOf? d.warnWhen
    return { id := d.id, title := d.title.getD d.id.written, program := d.program, args := d.args,
             dependencies := d.dependencies, markers := d.markers, remedy := d.remedy, timeLimit := d.timeLimit,
             expectedCode := d.expectedCode, failWhen, warnWhen, advice := d.advice }

namespace CommandGate

/-- The check under the settings of its gate. -/
def underSettings (c : CommandGate) (settings : Settings) : CommandGate :=
  { c with
      timeLimit := ((settings.word? "timeout_secs").bind Duration.ofSecs?).getD c.timeLimit,
      args := (settings.strings? "args").getD c.args }

/-- Whether the check applies: one of the marker files is there, if there are any markers. -/
def applies (c : CommandGate) (project : Project) : Bool :=
  c.markers.isEmpty || (project.firstPresent c.markers).isSome

/-- Why the check does not apply. -/
def whyNot (c : CommandGate) : String := "none of " ++ ", ".intercalate c.markers ++ " found"

/-- Why the gate is not met by a process that ended in a way and wrote a text, if it is not. -/
def failure? (c : CommandGate) (ending : ExitState) (text : String) : Option String :=
  let code := ending.codeOrMinusOne
  if code ≠ c.expectedCode then
    some (c.program ++ " exited with code " ++ toString code ++ " (expected " ++ toString c.expectedCode ++ ")")
  else
    match c.failWhen with
    | some p => if p.test text then some ("output matched fail pattern '" ++ p.source ++ "'") else none
    | none => none

/-- The text of what a process wrote. -/
def outputText (output : ProcessOutput) : String := Utf8.decodeLossy output.stdout ++ Utf8.decodeLossy output.stderr

/-- The result of a process that finished. -/
def judge (c : CommandGate) (output : ProcessOutput) (duration : Duration) : CheckResult :=
  let text := outputText output
  let result := match c.failure? output.ending text with
    | some error => { CheckResult.failed c.id duration error with advice := c.advice }
    | none =>
      if c.warnWhen.any (fun (m : Matcher) => m.test text) then .warned c.id duration else .passed c.id duration
  result.withOutput text

/-- Why a program that did not finish did not. -/
def whyUnfinished (program : String) (timeLimit : Duration) : ProcessRun → Option String
  | .finished _ _ => none
  | .timedOut => some (program ++ " timed out after " ++ timeLimit.secondsShortest ++ "s")
  | .notStarted e => some ("failed to run " ++ program ++ ": " ++ e.message)

/-- Evaluation: the program is run and its end judged. -/
def evaluate (c : CommandGate) (project : Project) : Attempt CheckResult × Project :=
  match Process.start project c.program c.args c.timeLimit with
  | (.finished output millis, after) => (.done (c.judge output (.ofMillis millis)), after)
  | (run, after) => (.failed (whyUnfinished c.program c.timeLimit run).toList, after)

/-- Remediation: the other command is run, and says by its success that it changed something. -/
def fix (c : CommandGate) (project : Project) : Attempt Bool × Project :=
  match c.remedy with
  | none => (.done false, project)
  | some (program, args) =>
    match Process.start project program args c.timeLimit with
    | (.finished output _, after) => (.done output.ending.isSuccess, after)
    | (run, after) => (.failed (whyUnfinished program c.timeLimit run).toList, after)

/-- What the check answers and does. Its calls take no time of the caller's. -/
def toCheck (c : CommandGate) : Check :=
  { id := c.id, title := c.title, dependencies := c.dependencies, applies := c.applies,
    whyNot := fun _ => c.whyNot, measure := fun _ => .done none, offersFix := c.remedy.isSome,
    fix := c.fix, evaluate := c.evaluate, fixMillis := 0, evaluateMillis := 0 }

/-- Makes the check for the settings of its gate. -/
def maker (c : CommandGate) (settings : Settings) : Check := (c.underSettings settings).toCheck

end CommandGate

end GateRunner
