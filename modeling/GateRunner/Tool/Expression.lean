import GateRunner.Posix.Reader
import GateRunner.Program.Filter
import GateRunner.Program.Options

/-!
# Expressions: `expr`

`expr` computes an expression whose operators and operands are its arguments. A value is a text; one that is written
like a whole number counts as one. The loosest operator is `|`, the tightest is `:`, and all of them bind to the left.
-/

namespace GateRunner

/-- A value of an expression. -/
inductive ExprValue
  | number (n : Int)
  | text (s : String)

/-- What is wrong with an expression. -/
inductive ExprError
  | missingAfter (word : String)
  | unexpected (word : String)
  | expectedClosing (word : String)
  | closingInstead (word : String)
  | strayClosing
  | noNumber
  | divisionByZero
  | pattern (f : Posix.Fault) (text : String)
  | tooDeep

namespace ExprError

/-- The wording of an error. -/
def message : ExprError → String
  | .missingAfter word => "syntax error: missing argument after " ++ quoted word
  | .unexpected word => "syntax error: unexpected argument " ++ quoted word
  | .expectedClosing word => "syntax error: expecting ')' after " ++ quoted word
  | .closingInstead word => "syntax error: expecting ')' instead of " ++ quoted word
  | .strayClosing => "syntax error: unexpected ')'"
  | .noNumber => "non-integer argument"
  | .divisionByZero => "division by zero"
  | .pattern f text => if text.endsWith "[" || text.endsWith "[^" then "Invalid regular expression" else f.message
  | .tooDeep => "memory exhausted"

end ExprError

namespace ExprValue

/-- The whole number that a text is written like. -/
def ofDigits? (s : String) : Option Int :=
  let (negative, digits) := match s.toList with
    | '-' :: rest => (true, rest)
    | all => (false, all)
  if digits.isEmpty || !digits.all Char.isDigit then none
  else
    let n : Int := (digitsValue 10 digits : Nat)
    some (if negative then -n else n)

/-- The number a value counts as. -/
def number? : ExprValue → Option Int
  | .number n => some n
  | .text s => ofDigits? s

/-- The value as a text. -/
def toText : ExprValue → String
  | .number n => toString n
  | .text s => s

/-- Whether a value counts as nothing: zero, in as many digits as one likes, or no text at all. -/
def isNull : ExprValue → Bool
  | .number n => n = 0
  | .text s => s = "" || ofDigits? s = some 0

/-- Whether two values are in some order. -/
def compare (a b : ExprValue) : Ordering :=
  match a.number?, b.number? with
  | some m, some n => Ord.compare m n
  | _, _ => Ord.compare a.toText b.toText

/-- A truth value. -/
def ofBool (b : Bool) : ExprValue := .number (if b then 1 else 0)

end ExprValue

/-- The arguments left, and the one before them. -/
structure ExprState where
  rest : List String
  before : String

/-- Reading and computing at once. -/
abbrev ExprReading := StateT ExprState (Except ExprError)

namespace ExprReading

/-- Takes the next argument if it is one of some words. -/
def takeOne? (words : List String) : ExprReading (Option String) := do
  let s ← get
  match s.rest with
  | word :: rest =>
    if words.contains word then
      set (⟨rest, word⟩ : ExprState)
      return some word
    else return none
  | [] => return none

/-- Takes the next argument, whatever it is. -/
def takeAny : ExprReading String := do
  let s ← get
  match s.rest with
  | word :: rest =>
    set (⟨rest, word⟩ : ExprState)
    return word
  | [] => throw (.missingAfter s.before)

/-- Two numbers joined by an operator. -/
def arithmetic (op : String) (live : Bool) (a b : ExprValue) : ExprReading ExprValue :=
  if !live then return a
  else
    match a.number?, b.number? with
    | some m, some n =>
      match op with
      | "+" => return .number (m + n)
      | "-" => return .number (m - n)
      | "*" => return .number (m * n)
      | _ =>
        if n = 0 then throw .divisionByZero
        else return .number (if op = "/" then m.tdiv n else m.tmod n)
    | _, _ => throw .noNumber

/-- The operators between numbers and between texts, by how tightly they bind. -/
def operators : List (List String) :=
  [["|"], ["&"], ["<", "<=", "=", "==", "!=", ">=", ">"], ["+", "-"], ["*", "/", "%"], [":"]]

/-- How much of a text a pattern matches from its beginning, or what its first group matches. -/
def matching (subject pattern : String) : ExprReading ExprValue := do
  match Posix.parse { extended := false, ignoresCase := false, strict := true } pattern with
  | .error f => throw (.pattern f pattern)
  | .ok (node, _) =>
    let s : Posix.Subject := { text := subject.toList.toArray, multiline := false, ignoresCase := false }
    match (node.ends s (0, [])).head? with
    | some (stop, groups) =>
      if node.groups = 0 then return .number stop
      else return .text (Posix.Match.group ⟨0, stop, groups⟩ s 1)
    | none => return if node.groups = 0 then .number 0 else .text ""

/-- A value joined with another by an operator that is neither `|` nor `&`. -/
def join (op : String) (live : Bool) (a b : ExprValue) : ExprReading ExprValue :=
  let o := a.compare b
  match op with
  | "<" => return .ofBool (o = .lt)
  | "<=" => return .ofBool (o ≠ .gt)
  | "=" | "==" => return .ofBool (o = .eq)
  | "!=" => return .ofBool (o ≠ .eq)
  | ">=" => return .ofBool (o ≠ .lt)
  | ">" => return .ofBool (o = .gt)
  | ":" => if live then matching a.toText b.toText else return a
  | _ => arithmetic op live a b

/-- A part of a text by the place and the length of the part. -/
def part (text : String) (place length : ExprValue) : String :=
  match place.number?, length.number? with
  | some p, some n =>
    if p ≤ 0 || n ≤ 0 then "" else String.ofList ((text.toList.drop (p.toNat - 1)).take n.toNat)
  | _, _ => ""

mutual

/-- An expression whose operators bind at least as tightly as those of a level; what is not live is read but not
computed. -/
def level : Nat → Nat → Bool → ExprReading ExprValue
  | 0, _, _ => throw .tooDeep
  | fuel + 1, n, live =>
    match operators[n]? with
    | none => operand fuel live
    | some words => do
      let first ← level fuel (n + 1) live
      more fuel n words live first

/-- The operators of a level that follow a value. -/
def more : Nat → Nat → List String → Bool → ExprValue → ExprReading ExprValue
  | 0, _, _, _, _ => throw .tooDeep
  | fuel + 1, n, words, live, value => do
    match ← takeOne? words with
    | none => return value
    | some "|" =>
      let second ← level fuel (n + 1) (live && value.isNull)
      more fuel n words live (if !value.isNull then value else if second.isNull then .number 0 else second)
    | some "&" =>
      let second ← level fuel (n + 1) (live && !value.isNull)
      more fuel n words live (if value.isNull || second.isNull then .number 0 else value)
    | some op =>
      let second ← level fuel (n + 1) live
      more fuel n words live (← join op live value second)

/-- A single value: a function with its arguments, an expression in parentheses, or a word. -/
def operand : Nat → Bool → ExprReading ExprValue
  | 0, _ => throw .tooDeep
  | fuel + 1, live => do
    match ← takeOne? ["+", "length", "match", "index", "substr", "(", ")"] with
    | some "+" => return .text (← takeAny)
    | some "length" => return .number (← operand fuel live).toText.length
    | some "match" =>
      let subject ← operand fuel live
      let pattern ← operand fuel live
      if live then matching subject.toText pattern.toText else return subject
    | some "index" =>
      let text := (← operand fuel live).toText.toList
      let wanted := (← operand fuel live).toText.toList
      let before := text.takeWhile fun c => !wanted.contains c
      return .number (if before.length = text.length then 0 else before.length + 1)
    | some "substr" =>
      let text ← operand fuel live
      let place ← operand fuel live
      let length ← operand fuel live
      return .text (part text.toText place length)
    | some "(" =>
      let value ← level fuel 0 live
      match (← get).rest with
      | [] => throw (.expectedClosing (← get).before)
      | ")" :: _ =>
        let _ ← takeAny
        return value
      | word :: _ => throw (.closingInstead word)
    | some _ => throw .strayClosing
    | none => return .text (← takeAny)

end

end ExprReading

/-- The value of the expression that arguments make. -/
def exprValue (args : List String) : Except ExprError ExprValue :=
  match (ExprReading.level (20 * args.length + 20) 0 true).run ⟨args, ""⟩ with
  | .error e => .error e
  | .ok (value, s) =>
    match s.rest with
    | [] => .ok value
    | word :: _ => .error (.unexpected word)

/-- `expr`. -/
def exprProgram : Tool := fun c =>
  let args := if c.args.head? = some "--" then c.args.drop 1 else c.args
  if args.isEmpty then c.refuseWithHint "missing operand" 2
  else
    match exprValue args with
    | .error e => c.refuse e.message 2
    | .ok value => do
      .say (value.toText ++ "\n")
      return if value.isNull then 1 else 0

end GateRunner
