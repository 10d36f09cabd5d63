import GateRunner.Number.Digits
import GateRunner.Number.Power

/-!
# Numbers at the front of texts, compared

Decimal numbers of any length with a sign and a fraction are compared without being rounded, and version numbers piece
by piece.
-/

namespace GateRunner

/-- A decimal number: its sign, its digits as one natural, and how many of them are behind the point. -/
structure Magnitude where
  negative : Bool
  digits : Nat
  places : Nat

namespace Magnitude

/-- The number at the front of a text, and what follows it. A text that begins with none is taken for zero. -/
def ofFront (text : List Char) : Magnitude × List Char :=
  let (negative, rest) := match text with
    | '-' :: rest => (true, rest)
    | _ => (false, text)
  let whole := rest.takeWhile Char.isDigit
  match rest.drop whole.length with
  | '.' :: after =>
    let fraction := after.takeWhile Char.isDigit
    (⟨negative, digitsValue 10 (whole ++ fraction), fraction.length⟩, after.drop fraction.length)
  | after => (⟨negative, digitsValue 10 whole, 0⟩, after)

/-- The number as so many units of a power of ten. -/
def units (m : Magnitude) (places : Nat) : Int :=
  let n : Int := m.digits * Nat.pow 10 (places - m.places)
  if m.negative then -n else n

/-- Which of two numbers is the greater. -/
def compare (a b : Magnitude) : Ordering :=
  let places := max a.places b.places
  Ord.compare (a.units places) (b.units places)

end Magnitude

/-! ## Versions -/

/-- The rank of a character in a version: the end comes before all but a tilde, letters before other signs. -/
def versionRank : List Char → Int
  | [] => -1
  | c :: _ => if c.isDigit then 0 else if c.isAlpha then c.toNat else if c = '~' then -2 else c.toNat + 256

/-- Which of two texts comes later if the numbers in them count as numbers. -/
def compareVersions : Nat → List Char → List Char → Ordering
  | 0, _, _ => .eq
  | _, [], [] => .eq
  | fuel + 1, a, b =>
    let isText (t : List Char) : Bool := t.head?.any (!·.isDigit)
    if isText a || isText b then
      match compare (versionRank a) (versionRank b) with
      | .eq => compareVersions fuel (a.drop 1) (b.drop 1)
      | o => o
    else
      let (m, n) := (a.takeWhile Char.isDigit, b.takeWhile Char.isDigit)
      match compare (digitsValue 10 m) (digitsValue 10 n) with
      | .eq => compareVersions fuel (a.drop m.length) (b.drop n.length)
      | o => o

end GateRunner
