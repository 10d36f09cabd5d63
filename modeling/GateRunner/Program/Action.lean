import GateRunner.Project.Disk
import GateRunner.Text.Bytes

/-!
# What a program does

A program at work is a tree of its dealings with the world: it writes, it reads, it looks at the disk and changes it,
it waits, it has other programs run, and at last it is done. `Action` is that tree; it decides nothing about where a
channel leads or when a program gets its turn. All texts here are texts of bytes.
-/

namespace GateRunner

/-- How a process that finished came to its end. -/
inductive ExitState
  | code (n : Nat)
  | signal (n : Nat)
deriving DecidableEq, Repr

/-- The exit code of a process, which is -1 for one that ended by a signal. -/
def ExitState.codeOrMinusOne : ExitState → Int
  | .code n => n
  | .signal _ => -1

/-- Whether a process ended by itself with code zero. -/
def ExitState.isSuccess (e : ExitState) : Bool := e = .code 0

/-- The end of a process as one number, signals counting from 128. -/
def ExitState.status : ExitState → Nat
  | .code n => n
  | .signal n => 128 + n

/-- A program to be run: its arguments after its name, and the variables it gets. -/
structure Order where
  name : String
  args : List String
  environment : List (String × String)
  /-- After how many microseconds it is told to end, and by which signal. -/
  limit : Option (Nat × Nat) := none
  /-- The directory it gets, if that is not the one of the program that has it run. -/
  directory : Option String := none

/-- What became of a program that was to be run. -/
inductive Ran
  | ended (state : ExitState)
  | overdue (state : ExitState)
  | notStarted (e : PathError)

/-- What the input of a program is. -/
inductive Input
  /-- A file, in which a program can go back. -/
  | file
  | directory
  | closed
  /-- Anything else that can be read. -/
  | stream
deriving DecidableEq

/-- What a program does, up to its answer. -/
inductive Action (α : Type) where
  | done (answer : α)
  /-- Writes on a channel. -/
  | write (channel : Nat) (text : String) (next : Action α)
  /-- Looks at what the input is. -/
  | input (next : Input → Action α)
  /-- Reads from the input. Of what has come so far, the function tells how much is taken; as long as it does not, the
  program waits for more, and at the end of the input it takes all. -/
  | read (taken : String → Option Nat) (next : String → Action α)
  /-- Reads a line with its end, or what is left of the input if it has no end of line. -/
  | line (next : String → Action α)
  | look (next : Disk → Action α)
  | store (disk : Disk) (next : Action α)
  | sleep (micros : Nat) (next : Action α)
  /-- Has another program run, and waits for it. -/
  | launch (order : Order) (next : Ran → Action α)
  /-- Turns into another program, if that can be started. -/
  | become (order : Order) (refused : PathError → Action α)
  /-- Writes the same again and again. -/
  | flood (text : String)

namespace Action

/-- One action after the other. -/
def andThen {α β : Type} : Action α → (α → Action β) → Action β
  | .done a, f => f a
  | .write channel text next, f => .write channel text (next.andThen f)
  | .input next, f => .input fun kind => (next kind).andThen f
  | .read taken next, f => .read taken fun text => (next text).andThen f
  | .line next, f => .line fun text => (next text).andThen f
  | .look next, f => .look fun disk => (next disk).andThen f
  | .store disk next, f => .store disk (next.andThen f)
  | .sleep micros next, f => .sleep micros (next.andThen f)
  | .launch order next, f => .launch order fun ran => (next ran).andThen f
  | .become order refused, f => .become order fun e => (refused e).andThen f
  | .flood text, _ => .flood text

instance : Monad Action where
  pure := .done
  bind := andThen

/-- Writes on the output. -/
def say (text : String) : Action Unit := if text = "" then .done () else .write 1 text (.done ())

/-- Writes on the channel for messages, with an end of line. -/
def complain (text : String) : Action Unit := .write 2 (text ++ "\n") (.done ())

/-- The disk as it is. -/
def disk : Action Disk := .look .done

/-- Puts a changed disk in the place of the old one. -/
def keep (disk : Disk) : Action Unit := .store disk (.done ())

/-- All of the input. -/
def allInput : Action String := .read (fun _ => none) .done

/-- The next part of the input, as much as has come; nothing at its end. -/
def block : Action String :=
  .read (fun text => if text = "" then none else some text.length) .done

/-- What the input is. -/
def inputKind : Action Input := .input .done

/-- Has a program run. -/
def run (order : Order) : Action Ran := .launch order .done

/-- Waits. -/
def pause (micros : Nat) : Action Unit := .sleep micros (.done ())

end Action

/-- How a program is called. The directory is the one paths start from. -/
structure Call where
  name : String
  args : List String
  directory : String
  environment : List (String × String)

namespace Call

/-- A path as the disk has it. -/
def path (c : Call) (name : String) : String := joinPath c.directory (Bytes.toText name)

/-- The call with other arguments. -/
def withArgs (c : Call) (args : List String) : Call := { c with args }

/-- A complaint under the program's name. -/
def complain (c : Call) (text : String) : Action Unit := .complain (c.name ++ ": " ++ text)

/-- The end of a program that was called wrongly. -/
def refuse (c : Call) (text : String) (status : Nat) : Action Nat := do
  c.complain text
  return status

/-- The end of a program that was called wrongly, with a hint at its help. -/
def refuseWithHint (c : Call) (text : String) (status : Nat) : Action Nat := do
  c.complain text
  .complain ("Try '" ++ c.name ++ " --help' for more information.")
  return status

end Call

/-- A program: what it does when it is called, up to its exit code. -/
abbrev Tool := Call → Action Nat

/-- A name between quotes as messages show it. Characters that do not print are shown by number. -/
def quoted (name : String) : String :=
  let shown (c : Char) : String :=
    if c = '\'' then "\\'" else if c = '\\' then "\\\\" else if c = '\n' then "\\n" else if c = '\t' then "\\t"
    else if 32 ≤ c.toNat && c.toNat < 127 then String.singleton c
    else "\\" ++ String.ofList ((List.range 3).map fun i => Nat.digitChar (c.toNat / Nat.pow 8 (2 - i) % 8))
  "'" ++ String.join (name.toList.map shown) ++ "'"

/-- The lines of a text, a final line feed beginning no further one. -/
def textLines (text : String) : List String :=
  let lines := text.splitOn "\n"
  if lines.getLast? = some "" then lines.dropLast else lines

/-- Lines as a text, each ended by a line feed. -/
def ofLines (lines : List String) : String := String.join (lines.map (· ++ "\n"))

end GateRunner
