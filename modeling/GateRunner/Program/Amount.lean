import GateRunner.Number.Digits
import GateRunner.Program.Quoting

/-!
# Amounts

Numbers given to programs, with a letter for a multiple: `2k` is 2048, and `2kB` is 2000.
-/

namespace GateRunner

/-- The multiple that letters after a number stand for. -/
def multiple? (letters : String) : Option Nat :=
  let powers : List (String × Nat) :=
    [("K", 1), ("M", 2), ("G", 3), ("T", 4), ("P", 5), ("E", 6), ("Z", 7), ("Y", 8), ("R", 9), ("Q", 10)]
  match letters with
  | "" => some 1
  | "b" => some 512
  | _ =>
    let first := String.ofList (letters.toList.take 1)
    let power := powers.lookup (if first = "k" then "K" else first)
    match String.ofList (letters.toList.drop 1), power with
    | "", some n | "iB", some n => some (Nat.pow 1024 n)
    | "B", some n => some (Nat.pow 1000 n)
    | _, _ => none

/-- An amount by its digits and the letters after them. -/
def amount? (text : String) : Option Nat :=
  let digits := text.toList.takeWhile Char.isDigit
  let letters := String.ofList (text.toList.drop digits.length)
  if digits.isEmpty then if letters = "" then none else multiple? letters
  else (multiple? letters).map (digitsValue 10 digits * ·)

/-- A number in a field of at least some width. -/
def padLeft (width : Nat) (text : String) : String :=
  String.ofList (List.replicate (width - text.length) ' ') ++ text

/-- A text in a field of at least some width, at its front. -/
def padRight (width : Nat) (text : String) : String :=
  text ++ String.ofList (List.replicate (width - text.length) ' ')

/-- A natural that is all of a text. -/
def wholeNatural? (text : String) : Option Nat :=
  if text ≠ "" && text.toList.all Char.isDigit then some (digitsValue 10 text.toList) else none

end GateRunner
