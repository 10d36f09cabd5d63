import GateRunner.Number.Digits
import GateRunner.Program.Action

/-!
# Conditions: `test` and `[`

Conditions on texts, on whole numbers and on files, put together by `!`, `-a`, `-o` and brackets. Up to four words are
taken by their number, so that a word which looks like an operator can still be an operand.
-/

namespace GateRunner

/-- What is wrong with a condition. -/
inductive ConditionFault
  | unexpected (word : String)
  | argumentExpected (operator : String)
  | closingExpected
  | illegalNumber (text : String)
deriving DecidableEq, Repr

/-- What a word means where an operator may stand. -/
inductive Sign
  | nothing
  | operand
  | unary (op : String)
  | binary (op : String)
  | and
  | or
  | not
  | open
  | close
deriving DecidableEq, Repr

/-- The operators on one operand. -/
def unaryOperators : List String :=
  ["-r", "-w", "-x", "-e", "-f", "-d", "-c", "-b", "-p", "-u", "-g", "-k", "-s", "-t", "-z", "-n", "-h", "-O", "-G",
    "-L", "-S"]

/-- The operators on two operands. -/
def binaryOperators : List String :=
  ["=", "!=", "<", ">", "-eq", "-ne", "-gt", "-ge", "-lt", "-le", "-nt", "-ot", "-ef"]

/-- The meaning of a word by itself. The program knows one operator more. -/
def signOf (extended : Bool) (word : String) : Sign :=
  match word with
  | "!" => .not
  | "(" => .open
  | ")" => .close
  | "-a" => .and
  | "-o" => .or
  | _ =>
    if word ∈ unaryOperators then .unary word
    else if word ∈ binaryOperators || (extended && word = "==") then .binary word
    else .operand

/-- Whether a sign is that of an operator on two operands. -/
def Sign.isBinary : Sign → Bool
  | .binary _ => true
  | _ => false

/-- The meaning of the first of some words. What would be an operator on one operand is an operand itself if nothing
follows, or a comparison does. -/
def signAt (extended : Bool) : List String → Sign
  | [] => .nothing
  | word :: rest =>
    match signOf extended word with
    | .unary op =>
      match rest with
      | [] => .operand
      | [_] => .unary op
      | next :: _ => if (signOf extended next).isBinary then .operand else .unary op
    | .open => if rest.isEmpty then .operand else .open
    | sign => sign

/-- A whole number with an optional sign and blanks around it. -/
def decimal? (text : String) : Option Int :=
  let isBlank (c : Char) : Bool := c = ' ' || (9 ≤ c.toNat && c.toNat ≤ 13)
  let trimmed := ((text.toList.dropWhile isBlank).reverse.dropWhile isBlank).reverse
  let bounded (digits : List Char) (bound : Nat) : Option Nat :=
    if digits.isEmpty || !digits.all Char.isDigit then none
    else
      let n := digitsValue 10 digits
      if bound < n then none else some n
  match trimmed with
  | '-' :: rest => (bounded rest (greatest + 1)).map fun n => -(n : Int)
  | '+' :: rest => (bounded rest greatest).map Int.ofNat
  | cs => (bounded cs greatest).map Int.ofNat

/-- Where conditions on files are looked up. -/
structure FileView where
  disk : Disk
  path : String → String

namespace FileView

/-- The entry a name leads to. -/
def entry? (v : FileView) (name : String) : Option Entry :=
  if name = "" then none else (v.disk.entry? (v.path name)).toOption

/-- When what a name leads to was changed, if it is a file. -/
def stamp? (v : FileView) (name : String) : Option Nat :=
  match v.entry? name with
  | some (.file _ status) => some status.stamp
  | some _ => some 0
  | none => none

/-- Whether two names lead to the same. -/
def same (v : FileView) (a b : String) : Bool :=
  match v.disk.placeOf? (v.path a), v.disk.placeOf? (v.path b) with
  | .ok x, .ok y => x = y
  | _, _ => false

/-- Whether a name leads to a device. -/
def isDevice (v : FileView) (name : String) : Bool :=
  match v.disk.placeOf? (v.path name) with
  | .ok place => place.head? = some "dev" && place.length = 2
  | .error _ => false

/-- A condition on one operand. -/
def unary (v : FileView) (op operand : String) : Bool :=
  let entry := v.entry? operand
  match op with
  | "-n" => operand ≠ ""
  | "-z" => operand = ""
  | "-e" | "-r" | "-w" | "-O" | "-G" => entry.isSome
  | "-f" => entry.any (·.isFile) && !v.isDevice operand
  | "-d" => entry.any (·.isDir)
  | "-c" => v.isDevice operand
  | "-s" =>
    match entry with
    | some (.file bytes _) => !bytes.isEmpty
    | some (.dir _) => true
    | _ => false
  | "-x" =>
    match entry with
    | some (.file _ status) => status.isExecutable
    | some (.dir _) => true
    | _ => false
  | "-L" | "-h" =>
    match v.disk.entryItself? (v.path operand) with
    | .ok e => operand ≠ "" && e.isLink
    | .error _ => false
  | _ => false

/-- A condition on two operands. -/
def binary (v : FileView) (op a b : String) : Except ConditionFault Bool :=
  let numbers (f : Int → Int → Bool) : Except ConditionFault Bool :=
    match decimal? a, decimal? b with
    | some x, some y => .ok (f x y)
    | none, _ => .error (.illegalNumber a)
    | _, none => .error (.illegalNumber b)
  let stamps (f : Nat → Nat → Bool) : Except ConditionFault Bool :=
    match v.stamp? a, v.stamp? b with
    | some x, some y => .ok (f x y)
    | _, _ => .ok false
  match op with
  | "=" | "==" => .ok (a = b)
  | "!=" => .ok (a ≠ b)
  | "<" => .ok (a < b)
  | ">" => .ok (b < a)
  | "-eq" => numbers (fun x y => x = y)
  | "-ne" => numbers (fun x y => x ≠ y)
  | "-lt" => numbers (fun x y => x < y)
  | "-le" => numbers (fun x y => x ≤ y)
  | "-gt" => numbers (fun x y => y < x)
  | "-ge" => numbers (fun x y => y ≤ x)
  | "-nt" => stamps (fun x y => y < x)
  | "-ot" => stamps (fun x y => x < y)
  | _ => .ok (v.same a b)

end FileView

/-- What comes of a condition at the front of some words: its value, and the words from its last one on. -/
abbrev Judged := Except ConditionFault (Bool × List String)

mutual

/-- A single condition, whose first word has a meaning that is known. -/
def primaryCondition (v : FileView) (extended : Bool) : Nat → Sign → List String → Judged
  | 0, _, words => .ok (false, words)
  | fuel + 1, sign, words =>
    match sign with
    | .nothing => .ok (false, words)
    | .open => do
      let inner := words.drop 1
      let next := signAt extended inner
      if next = .close then return (false, inner)
      let (value, words) ← orCondition v extended fuel next inner
      let words := words.drop 1
      if signAt extended words = .close then return (value, words) else throw .closingExpected
    | .unary op =>
      match words.drop 1 with
      | [] => .error (.argumentExpected op)
      | operand :: rest => .ok (v.unary op operand, operand :: rest)
    | _ =>
      match words with
      | a :: next :: rest =>
        match signAt extended (next :: rest) with
        | .binary op =>
          match rest with
          | [] => .error (.argumentExpected op)
          | b :: rest => (v.binary op a b).map fun value => (value, b :: rest)
        | _ => .ok (a ≠ "", words)
      | [a] => .ok (a ≠ "", words)
      | [] => .ok (false, words)

/-- A condition that may be negated. -/
def notCondition (v : FileView) (extended : Bool) : Nat → Sign → List String → Judged
  | 0, _, words => .ok (false, words)
  | fuel + 1, sign, words =>
    if sign = .not then
      let rest := words.drop 1
      let next := signAt extended rest
      (notCondition v extended fuel next (if next = .nothing then words else rest)).map fun (value, words) =>
        (!value, words)
    else primaryCondition v extended fuel sign words

/-- Conditions joined by `-a`. -/
def andCondition (v : FileView) (extended : Bool) : Nat → Sign → List String → Judged
  | 0, _, words => .ok (false, words)
  | fuel + 1, sign, words => do
    let (first, words) ← notCondition v extended fuel sign words
    if signAt extended (words.drop 1) = .and then
      let rest := words.drop 2
      let (second, words) ← andCondition v extended fuel (signAt extended rest) rest
      return (first && second, words)
    else return (first, words)

/-- Conditions joined by `-o`. -/
def orCondition (v : FileView) (extended : Bool) : Nat → Sign → List String → Judged
  | 0, _, words => .ok (false, words)
  | fuel + 1, sign, words => do
    let (first, words) ← andCondition v extended fuel sign words
    if signAt extended (words.drop 1) = .or then
      let rest := words.drop 2
      let (second, words) ← orCondition v extended fuel (signAt extended rest) rest
      return (first || second, words)
    else return (first, words)

end

/-- The value of a condition. -/
def condition (v : FileView) (extended : Bool) : Nat → List String → Except ConditionFault Bool
  | 0, _ => .ok false
  | _, [] => .ok false
  | fuel + 1, words =>
    let judge (sign : Sign) (words : List String) : Except ConditionFault Bool := do
      let (value, rest) ← orCondition v extended (4 * words.length + 8) sign words
      match rest with
      | word :: _ :: _ => throw (.unexpected word)
      | _ => return value
    let byForm (words : List String) : Except ConditionFault Bool :=
      match words with
      | first :: rest =>
        if first = "(" && rest.getLast? = some ")" then
          let inner := rest.dropLast
          judge (signAt extended inner) inner
        else if first = "!" then (condition v extended fuel rest).map not
        else judge (signAt extended words) words
      | [] => .ok false
    match words with
    | [_, op, _] => if (signOf extended op).isBinary then judge .operand words else byForm words
    | [_, _, _, _] => byForm words
    | _ => judge (signAt extended words) words

/-- How the shell words a fault. -/
def ConditionFault.inShell : ConditionFault → String
  | .unexpected word => (if word = "" then "" else word ++ ": ") ++ "unexpected operator"
  | .argumentExpected op => op ++ ": argument expected"
  | .closingExpected => "closing paren expected"
  | .illegalNumber text => "Illegal number: " ++ text

/-- How the program words a fault in a condition of those words. -/
def ConditionFault.inProgram (words : List String) : ConditionFault → String
  | .illegalNumber text => "invalid integer " ++ quoted text
  | .argumentExpected op => "missing argument after " ++ quoted op
  | .closingExpected => "missing argument after " ++ quoted (words.getLast?.getD "")
  | .unexpected word =>
    match words with
    | [a, b] =>
      if a.startsWith "-" && a.length = 2 then quoted a ++ ": unary operator expected"
      else "missing argument after " ++ quoted b
    | [_, b, _] => quoted b ++ ": binary operator expected"
    | _ => "extra argument " ++ quoted (((words.dropWhile (· ≠ word)).drop 1).headD word)

/-- `test` or `[` by what is done with the words and a fault. -/
def testWith (extended : Bool) (c : Call) (complain : String → Action Nat) (wording : List String → ConditionFault → String)
    (bracket : String) : Action Nat := do
  let judge (words : List String) : Action Nat := do
    let disk ← Action.disk
    match condition ⟨disk, c.path⟩ extended (words.length + 1) words with
    | .ok true => return 0
    | .ok false => return 1
    | .error fault => complain (wording words fault)
  if (c.name.splitOn "/").getLast? = some "[" then
    match c.args.reverse with
    | "]" :: args => judge args.reverse
    | _ => complain bracket
  else judge c.args

/-- `test` and `[` as programs. -/
def testProgram : Tool := fun c =>
  testWith true c (fun text => c.refuse text 2) (fun words fault => fault.inProgram words) "missing ']'"

end GateRunner
