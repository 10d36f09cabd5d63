import GateRunner.Number.Digits

/-!
# Arithmetic in scripts

Whole numbers of 64 bits with the operators of the shell, from unary ones down to assignments. A name stands for the
number its variable holds. What an operator leaves out, the second operand of a settled `&&` or the branch not chosen,
is read but not evaluated: it divides by nothing and assigns nothing.

The variables are a state of any type; `Variables` says how a number is found in it and put into it.
-/

namespace GateRunner.Shell.Arithmetic

/-- What is wrong with an expression. -/
inductive Fault
  /-- The expression itself, for a reason. -/
  | expression (reason : String)
  /-- Something else, in words. -/
  | other (message : String)

/-- Where the numbers of names are kept. -/
structure Variables (σ : Type) where
  find : σ → String → Except Fault Int
  assign : σ → String → Int → Except Fault σ

/-- The pieces of an expression. -/
inductive Token
  | number (n : Int)
  | name (text : String)
  | op (text : String)
deriving DecidableEq, Repr

/-- The operators of more than one character, longer ones first. -/
def longOperators : List String :=
  ["<<=", ">>=", "||", "&&", "==", "!=", "<=", ">=", "<<", ">>", "+=", "-=", "*=", "/=", "%=", "&=", "|=", "^="]

/-- The pieces of a text. -/
def tokens : Nat → List Char → List Token
  | 0, _ => []
  | _, [] => []
  | fuel + 1, c :: rest =>
    if c = ' ' || c = '\t' || c = '\n' then tokens fuel rest
    else if c.isDigit then
      let (value, after) := leadingNatural (c :: rest)
      .number (min value greatest : Nat) :: tokens fuel after
    else if c.isAlpha || c = '_' then
      let isPart (c : Char) : Bool := c.isAlphanum || c = '_'
      .name (String.ofList ((c :: rest).takeWhile isPart)) :: tokens fuel ((c :: rest).dropWhile isPart)
    else
      match longOperators.find? (fun o => o.toList.isPrefixOf (c :: rest)) with
      | some o => .op o :: tokens fuel ((c :: rest).drop o.length)
      | none => .op (String.singleton c) :: tokens fuel rest

/-- How strongly a binary operator binds. -/
def strength : String → Option Nat
  | "|" => some 3
  | "^" => some 4
  | "&" => some 5
  | "==" | "!=" => some 6
  | "<" | "<=" | ">" | ">=" => some 7
  | "<<" | ">>" => some 8
  | "+" | "-" => some 9
  | "*" | "/" | "%" => some 10
  | _ => none

/-- The operator with which an assignment changes a value; none for a plain assignment. -/
def assignmentOf? : String → Option (Option String)
  | "=" => some none
  | "+=" => some "+"
  | "-=" => some "-"
  | "*=" => some "*"
  | "/=" => some "/"
  | "%=" => some "%"
  | "&=" => some "&"
  | "|=" => some "|"
  | "^=" => some "^"
  | "<<=" => some "<<"
  | ">>=" => some ">>"
  | _ => none

/-- A truth value as a number. -/
def ofBool (b : Bool) : Int := if b then 1 else 0

/-- The number brought into 64 bits. -/
def wrap (n : Int) : Int := Int.bmod n wordBound

/-- The 64 bits of a number, as a natural. -/
def bits (n : Int) : Nat := (n % wordBound).toNat

/-- What a binary operator makes of two numbers. -/
def combine (op : String) (a b : Int) : Except Fault Int :=
  match op with
  | "|" => .ok (wrap (bits a ||| bits b : Nat))
  | "^" => .ok (wrap (bits a ^^^ bits b : Nat))
  | "&" => .ok (wrap (bits a &&& bits b : Nat))
  | "==" => .ok (ofBool (a = b))
  | "!=" => .ok (ofBool (a ≠ b))
  | "<" => .ok (ofBool (a < b))
  | "<=" => .ok (ofBool (a ≤ b))
  | ">" => .ok (ofBool (a > b))
  | ">=" => .ok (ofBool (a ≥ b))
  | "<<" => .ok (wrap (a * twoTo (bits b % 64)))
  | ">>" => .ok (a >>> (bits b % 64))
  | "+" => .ok (wrap (a + b))
  | "-" => .ok (wrap (a - b))
  | "*" => .ok (wrap (a * b))
  | "/" => if b = 0 then .error (.expression "division by zero") else .ok (wrap (a.tdiv b))
  | "%" => if b = 0 then .error (.expression "division by zero") else .ok (a.tmod b)
  | _ => .error (.expression "expecting primary")

/-- What comes of reading a part of an expression: its number, the tokens left, and the variables after it. -/
abbrev Part (σ : Type) := Int × List Token × σ

variable {σ : Type}

mutual

/-- An operand. -/
def operand (v : Variables σ) : Nat → Bool → List Token → σ → Except Fault (Part σ)
  | 0, _, _, _ => .error (.expression "expecting primary")
  | fuel + 1, idle, tokens, s =>
    match tokens with
    | .number n :: rest => .ok (n, rest, s)
    | .name name :: rest => if idle then .ok (0, rest, s) else (v.find s name).map fun n => (n, rest, s)
    | .op "(" :: rest => do
      let (n, rest, s) ← assignment v fuel idle rest s
      match rest with
      | .op ")" :: rest => return (n, rest, s)
      | _ => throw (.expression "expecting ')'")
    | .op "+" :: rest => operand v fuel idle rest s
    | .op "-" :: rest => (operand v fuel idle rest s).map fun (n, rest) => (wrap (-n), rest)
    | .op "!" :: rest => (operand v fuel idle rest s).map fun (n, rest) => (ofBool (n = 0), rest)
    | .op "~" :: rest => (operand v fuel idle rest s).map fun (n, rest) => (-n - 1, rest)
    | _ => .error (.expression "expecting primary")

/-- The binary operators that bind at least as strongly as asked, after a left operand. -/
def binary (v : Variables σ) : Nat → Bool → Nat → Int → List Token → σ → Except Fault (Part σ)
  | 0, _, _, _, _, _ => .error (.expression "expecting primary")
  | fuel + 1, idle, least, left, tokens, s =>
    match tokens with
    | .op o :: rest =>
      match strength o with
      | none => .ok (left, tokens, s)
      | some power =>
        if power < least then .ok (left, tokens, s)
        else do
          let (right, rest, s) ← operand v fuel idle rest s
          let (right, rest, s) ← binary v fuel idle (power + 1) right rest s
          let value ← if idle then pure right else combine o left right
          binary v fuel idle least value rest s
    | _ => .ok (left, tokens, s)

/-- Operands joined by `&&`. -/
def conjunction (v : Variables σ) : Nat → Bool → List Token → σ → Except Fault (Part σ)
  | 0, _, _, _ => .error (.expression "expecting primary")
  | fuel + 1, idle, tokens, s => do
    let (first, rest, s) ← operand v fuel idle tokens s
    let (first, rest, s) ← binary v fuel idle 1 first rest s
    match rest with
    | .op "&&" :: rest =>
      let (second, rest, s) ← conjunction v fuel (idle || first = 0) rest s
      return (ofBool (first ≠ 0 && second ≠ 0), rest, s)
    | _ => return (first, rest, s)

/-- Operands joined by `||`. -/
def disjunction (v : Variables σ) : Nat → Bool → List Token → σ → Except Fault (Part σ)
  | 0, _, _, _ => .error (.expression "expecting primary")
  | fuel + 1, idle, tokens, s => do
    let (first, rest, s) ← conjunction v fuel idle tokens s
    match rest with
    | .op "||" :: rest =>
      let (second, rest, s) ← disjunction v fuel (idle || first ≠ 0) rest s
      return (ofBool (first ≠ 0 || second ≠ 0), rest, s)
    | _ => return (first, rest, s)

/-- A choice by a condition, or what can stand in its place. -/
def choice (v : Variables σ) : Nat → Bool → List Token → σ → Except Fault (Part σ)
  | 0, _, _, _ => .error (.expression "expecting primary")
  | fuel + 1, idle, tokens, s => do
    let (test, rest, s) ← disjunction v fuel idle tokens s
    match rest with
    | .op "?" :: rest =>
      let (yes, rest, s) ← assignment v fuel (idle || test = 0) rest s
      match rest with
      | .op ":" :: rest =>
        let (no, rest, s) ← choice v fuel (idle || test ≠ 0) rest s
        return (if test ≠ 0 then yes else no, rest, s)
      | _ => throw (.expression "expecting ':'")
    | _ => return (test, rest, s)

/-- An assignment, or what can stand in its place. -/
def assignment (v : Variables σ) : Nat → Bool → List Token → σ → Except Fault (Part σ)
  | 0, _, _, _ => .error (.expression "expecting primary")
  | fuel + 1, idle, tokens, s =>
    match tokens with
    | .name name :: .op o :: rest =>
      match assignmentOf? o with
      | none => choice v fuel idle tokens s
      | some change => do
        let (n, rest, s) ← assignment v fuel idle rest s
        if idle then return (n, rest, s)
        let value ← match change with
          | none => pure n
          | some op => do combine op (← v.find s name) n
        return (value, rest, ← v.assign s name value)
    | _ => choice v fuel idle tokens s

end

/-- The value of an expression, with the variables after it. -/
def evaluate (v : Variables σ) (text : String) (s : σ) : Except Fault (Int × σ) := do
  let pieces := tokens (text.length + 1) text.toList
  let (n, rest, s) ← assignment v (8 * pieces.length + 8) false pieces s
  if rest.isEmpty then return (n, s) else throw (.expression "expecting EOF")

end GateRunner.Shell.Arithmetic
