import GateRunner.Number.Power

/-!
# Numbers as programs read them

A number at the front of a text is decimal, octal after a zero, or hexadecimal after a zero and an `x`. Numbers have 64
bits, and what is greater counts as the greatest.
-/

namespace GateRunner

/-- The value of a hexadecimal digit. -/
def hexDigit? (c : Char) : Option Nat :=
  let n := c.toLower.toNat
  if c.isDigit then some (c.toNat - 48) else if 97 ≤ n && n ≤ 102 then some (n - 87) else none

/-- Whether a character is an octal digit. -/
def isOctal (c : Char) : Bool := '0' ≤ c && c ≤ '7'

/-- The number that digits stand for. -/
def digitsValue (base : Nat) (digits : List Char) : Nat :=
  digits.foldl (fun n c => n * base + (hexDigit? c).getD 0) 0

/-- The natural at the front of a text, in the notation its first characters choose, and what follows it. -/
def leadingNatural (text : List Char) : Nat × List Char :=
  let hex (rest : List Char) : Nat × List Char :=
    let isHex (c : Char) : Bool := (hexDigit? c).isSome
    let digits := rest.takeWhile isHex
    if digits.isEmpty then (0, text.drop 1) else (digitsValue 16 digits, rest.dropWhile isHex)
  match text with
  | '0' :: 'x' :: rest | '0' :: 'X' :: rest => hex rest
  | '0' :: rest => (digitsValue 8 (rest.takeWhile isOctal), rest.dropWhile isOctal)
  | _ => (digitsValue 10 (text.takeWhile Char.isDigit), text.dropWhile Char.isDigit)

/-- The greatest number. -/
def greatest : Nat := twoTo 63 - 1

/-- A whole number as a text has it, with blanks around it. Numbers that are too great become the greatest. -/
def integer? (text : String) : Option Int :=
  let isBlank (c : Char) : Bool := c = ' ' || (9 ≤ c.toNat && c.toNat ≤ 13)
  let body := text.toList.dropWhile isBlank
  let (negative, digits) := match body with
    | '-' :: rest => (true, rest)
    | '+' :: rest => (false, rest)
    | rest => (false, rest)
  if !(digits.head?.any Char.isDigit) then none
  else
    let (n, rest) := leadingNatural digits
    if rest.all isBlank then
      some (if negative then -(min n (greatest + 1) : Nat) else (min n greatest : Nat))
    else none

end GateRunner
