import GateRunner.Number.Binary64

/-!
# Fractions in fixed and in scientific notation

A fraction is written with a number of places after the point, or with a number of places and an exponent. Both are
rounded from the exact value, a half going to the even neighbour.
-/

namespace GateRunner

/-- A fraction that is not negative, with its sign beside it. -/
structure Fraction where
  negative : Bool
  num : Nat
  den : Nat

namespace Fraction

/-- Digits with a point before the last `places` of them. -/
def point (places n : Nat) (keepPoint : Bool) : String :=
  let digits := (toString n).toList
  let digits := List.replicate (places + 1 - digits.length) '0' ++ digits
  let whole := String.ofList (digits.take (digits.length - places))
  let part := String.ofList (digits.drop (digits.length - places))
  if places = 0 then if keepPoint then whole ++ "." else whole else whole ++ "." ++ part

/-- The magnitude with some places after the point. -/
def inPlaces (x : Fraction) (places : Nat) (keepPoint : Bool) : String :=
  point places (roundDiv (x.num * tenTo places) x.den) keepPoint

/-- The number of digits of a natural. -/
def digitCount (n : Nat) : Nat := (toString n).length

/-- The exponent of ten of a fraction that is not zero: its magnitude lies between that power and the next. -/
def exponent (x : Fraction) : Int :=
  let guess : Int := (digitCount x.num : Int) - digitCount x.den
  let reached (e : Int) : Bool :=
    if 0 ≤ e then x.den * tenTo e.toNat ≤ x.num else x.den ≤ x.num * tenTo (-e).toNat
  if reached guess then guess else guess - 1

/-- The magnitude as a number of `places + 1` digits and an exponent. -/
def scientific (x : Fraction) (places : Nat) : Nat × Int :=
  if x.num = 0 then (0, 0)
  else
    let e := x.exponent
    let shift := (places : Int) - e
    let digits := if 0 ≤ shift then roundDiv (x.num * tenTo shift.toNat) x.den
      else roundDiv x.num (x.den * tenTo (-shift).toNat)
    if tenTo (places + 1) ≤ digits then (roundDiv digits 10, e + 1) else (digits, e)

/-- An exponent as it is written: with a sign, and at least two digits. -/
def exponentText (e : Int) : String :=
  let digits := toString e.natAbs
  (if e < 0 then "-" else "+") ++ (if digits.length < 2 then "0" ++ digits else digits)

/-- The magnitude with some places after the point, and an exponent. -/
def inPowers (x : Fraction) (places : Nat) (keepPoint : Bool) : String :=
  let (digits, e) := x.scientific places
  point places digits keepPoint ++ "e" ++ exponentText e

/-- A text without the zeros at its end, and without a point at its end. -/
def dropZeros (text : String) : String :=
  let cs := text.toList
  if cs.contains '.' then
    let kept := (cs.reverse.dropWhile (· = '0'))
    String.ofList (if kept.head? = some '.' then kept.drop 1 else kept).reverse
  else text

/-- The magnitude with some digits in all, in the notation that its size calls for. Zeros at the end are dropped if
that is wished. -/
def general (x : Fraction) (digits : Nat) (keepZeros : Bool) : String :=
  let digits := max digits 1
  let (mantissa, e) := x.scientific (digits - 1)
  if -4 ≤ e && e < digits then
    let text := x.inPlaces ((digits : Int) - 1 - e).toNat keepZeros
    if keepZeros then text else dropZeros text
  else
    let text := point (digits - 1) mantissa keepZeros
    (if keepZeros then text else dropZeros text) ++ "e" ++ exponentText e

/-- The nearest double's exact value; none past every finite one. -/
def toDouble? (x : Fraction) : Option Fraction :=
  if x.num = 0 then some x
  else (Binary64.ofRatio x.num x.den).map fun d => ⟨x.negative, d.num, d.den⟩

/-- The fraction at the front of a text, in decimal notation with an exponent, and what follows it; nothing if there is
no digit. -/
def leading? (text : List Char) : Option (Fraction × List Char) :=
  let (negative, rest) := match text with
    | '-' :: rest => (true, rest)
    | '+' :: rest => (false, rest)
    | rest => (false, rest)
  let value (cs : List Char) : Nat := cs.foldl (fun n c => n * 10 + (c.toNat - 48)) 0
  let whole := rest.takeWhile Char.isDigit
  let rest := rest.drop whole.length
  let (part, rest) := match rest with
    | '.' :: after => (after.takeWhile Char.isDigit, after.dropWhile Char.isDigit)
    | _ => ([], rest)
  if whole.isEmpty && part.isEmpty then none
  else
    let n := value (whole ++ part)
    let scale := tenTo part.length
    let plain : Fraction × List Char := (⟨negative, n, scale⟩, rest)
    match rest with
    | e :: after =>
      if e = 'e' || e = 'E' then
        let (minus, digits) := match after with
          | '-' :: d => (true, d)
          | '+' :: d => (false, d)
          | d => (false, d)
        let power := digits.takeWhile Char.isDigit
        if power.isEmpty then some plain
        else
          let k := min (value power) 5000
          some (if minus then ⟨negative, n, scale * tenTo k⟩ else ⟨negative, n * tenTo k, scale⟩,
            digits.drop power.length)
      else some plain
    | [] => some plain

end Fraction

end GateRunner
