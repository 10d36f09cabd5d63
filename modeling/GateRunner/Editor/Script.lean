import GateRunner.Posix.Reader

/-!
# Scripts that edit lines

A script for a stream of lines is a list of commands. Each command has addresses that say for which lines it is
meant. The script works on the line at hand, to which further lines may be added, and on a second text that is kept.
-/

namespace GateRunner.Editor

/-- A regular expression of a script; the empty one means the last that was used. -/
structure Expression where
  node : Option Posix.Node
  ignoresCase : Bool
  multiline : Bool

/-- An address: which lines are meant. -/
inductive Address
  | number (n : Nat)
  /-- Every so many lines from a first one on. -/
  | step (first step : Nat)
  | last
  | matching (e : Expression)
  /-- So many lines on, as the end of a range. -/
  | plus (n : Nat)
  /-- The next line whose number is a multiple, as the end of a range. -/
  | multiple (n : Nat)

/-- The addresses of a command. -/
structure Selector where
  first : Option Address
  second : Option Address
  negated : Bool

/-- What is changed in letters that are put in. -/
inductive CaseChange
  | upper
  | lower
  | nextUpper
  | nextLower
  | nothing
deriving DecidableEq

/-- A part of a replacement. -/
inductive Replacement
  | text (value : String)
  | group (number : Nat)
  | change (c : CaseChange)

/-- An exchange of what an expression matches. -/
structure Substitution where
  expression : Expression
  replacement : List Replacement
  /-- Which match is exchanged, counted from one. -/
  first : Nat
  /-- Whether those after it are too. -/
  all : Bool
  shows : Bool
  file : Option String

/-- When a jump is made. -/
inductive JumpKind
  | always
  | ifChanged
  | ifUnchanged
deriving DecidableEq

/-- A command. -/
inductive Command
  | openBlock (negatedTo : Nat)
  | closeBlock
  | label
  | number
  | append (text : String)
  | insert (text : String)
  | change (text : String)
  | jump (kind : JumpKind) (target : Option Nat)
  | delete
  | deleteFirst
  | show
  | showFirst
  | next
  | addNext
  | take
  | takeMore
  | keep
  | keepMore
  | swap
  | quit (status : Nat) (shows : Bool)
  | readFile (name : String)
  | readLine (name : String)
  | writeFile (name : String)
  | writeFirst (name : String)
  | substitute (s : Substitution)
  | exchange (table : List (Char × Char))
  | list (width : Option Nat)
  | fileName
  | clear

/-- A command with its addresses. -/
structure Step where
  selector : Selector
  command : Command

instance : Inhabited Step := ⟨⟨⟨none, none, false⟩, .label⟩⟩

end GateRunner.Editor
