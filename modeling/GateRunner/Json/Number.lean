import GateRunner.Number.Decimal

/-!
# Numbers of JSON texts

A number written without fraction and exponent that fits in 64 bits, with or without sign, is a whole number and is
kept exactly. Every other number is a double. `Number.ofLexeme?` fixes which double: digits are gathered into a 64-bit
significand as long as they fit, the significand becomes a double, and that is scaled by a power of ten, so there are
up to three roundings. A number past the finite doubles stands for nothing.
-/

namespace GateRunner.Json

/-- A number as written: its sign, its digits before and after the point, and its exponent. -/
structure Lexeme where
  negative : Bool
  whole : List Char
  fraction : Option (List Char)
  exponent : Option (Bool × List Char)

/-- The value of a number. -/
inductive Number
  | int (value : Int)
  | double (negative : Bool) (magnitude : Binary64)
deriving DecidableEq, Repr, Inhabited

namespace Number

/-- The value of a digit. -/
def digit (c : Char) : Nat := c.toNat - '0'.toNat

/-- Digits gathered into a significand while it fits in 64 bits; what is left are the digits that did not fit. -/
def gather : Nat → List Char → Nat × List Char
  | acc, [] => (acc, [])
  | acc, c :: rest =>
    let next := acc * 10 + digit c
    if next < wordBound then gather next rest else (acc, c :: rest)

/-- The value of an exponent's digits; one past 32 bits is as good as any larger. -/
def exponentValue (digits : List Char) : Nat :=
  digits.foldl (fun acc c => if acc < wordBound then acc * 10 + digit c else acc) 0

/-- A double times a power of ten. The powers up to `10 ^ 308` are single steps; a lower power is reached over
`10 ^ -308`, once or more often. None past the finite doubles. -/
def scale : Nat → Binary64 → Int → Option Binary64
  | 0, x, _ => some x
  | steps + 1, x, exp =>
    if exp.natAbs ≤ 308 then
      match Binary64.ofRatio (tenTo exp.natAbs) 1 with
      | none => none
      | some power => if 0 ≤ exp then x.mul? power else x.div? power
    else if x.mant = 0 then some x
    else if 0 ≤ exp then none
    else
      match Binary64.ofRatio (tenTo 308) 1 with
      | none => none
      | some power => (x.div? power).bind (fun y => scale steps y (exp + 308))

/-- The double of a significand and a power of ten. After a handful of steps down from any significand of 64 bits
only zero is left. -/
def ofParts? (negative : Bool) (significand : Nat) (exp : Int) : Option Number :=
  (scale 8 (Binary64.ofNat significand) exp).map (.double negative)

/-- The value a written number stands for. -/
def ofLexeme? (l : Lexeme) : Option Number :=
  let (significand, excess) := gather 0 l.whole
  match l.fraction, l.exponent, excess with
  | none, none, [] =>
    if !l.negative then some (.int significand)
    else if significand = 0 then some (.double true .zero)
    else if significand ≤ twoTo 63 then some (.int (-significand))
    else some (.double true (Binary64.ofNat significand))
  | fraction, exponent, excess =>
    let digits := fraction.getD []
    let (significand, dropped) := gather significand digits
    let shift : Int := excess.length - (digits.length - dropped.length : Nat)
    match exponent with
    | none => ofParts? l.negative significand shift
    | some (below, digits) =>
      let value := exponentValue digits
      if twoTo 31 ≤ value then
        if significand ≠ 0 && !below then none else some (.double l.negative .zero)
      else ofParts? l.negative significand (if below then shift - value else shift + value)

/-- A double as JSON text. It is written with a point or an exponent, so it does not read as a whole number. -/
def doubleText (x : Binary64) : String :=
  let d := x.shortest
  if d.digits = 0 then "0.0"
  else if -20 ≤ d.exp ∧ d.exp < 0 then d.positional
  else toString d.digits ++ "e" ++ toString d.exp

/-- A number as JSON text. -/
def text : Number → String
  | .int value => toString value
  | .double negative x => (if negative then "-" else "") ++ doubleText x

end Number

end GateRunner.Json
