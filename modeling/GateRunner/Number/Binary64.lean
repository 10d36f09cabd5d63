import GateRunner.Number.Power

/-!
# Doubles as dyadic fractions

A finite double that is not negative is `mant · 2 ^ exp` with fewer than 53 significant bits. Held this way its value
is an exact fraction of naturals, so every operation is computed exactly first and rounded once, which is what the
arithmetic of doubles means. The rule of rounding is `ofRatio`: to the nearest double, a half to the even neighbour.
-/

namespace GateRunner

/-- The quotient rounded to the nearest natural, a half going to the even neighbour. -/
def roundDiv (num den : Nat) : Nat :=
  let q := num / den
  let r := num % den
  if 2 * r < den then q
  else if den < 2 * r then q + 1
  else if q % 2 = 0 then q else q + 1

/-- A finite double without its sign: the value is `mant · 2 ^ exp`. -/
structure Binary64 where
  mant : Nat
  exp : Int
deriving DecidableEq, Repr, Inhabited

namespace Binary64

/-- The least exponent, that of the numbers next to zero. -/
def minExp : Int := -1074

/-- The greatest exponent of a number with all 53 bits. -/
def maxExp : Int := 971

/-- Zero. -/
def zero : Binary64 := ⟨0, minExp⟩

/-- The numerator of the value as a fraction. -/
def num (x : Binary64) : Nat := if 0 ≤ x.exp then x.mant * twoTo x.exp.toNat else x.mant

/-- The denominator of the value as a fraction. -/
def den (x : Binary64) : Nat := if 0 ≤ x.exp then 1 else twoTo (-x.exp).toNat

/-- Whether `num / den` is at least `2 ^ e`. -/
def atLeastPow2 (num den : Nat) (e : Int) : Bool :=
  if 0 ≤ e then den * twoTo e.toNat ≤ num else den ≤ num * twoTo (-e).toNat

/-- The nearest double to `num / den`, a half going to the even neighbour; none when that is past every finite one. -/
def ofRatio (num den : Nat) : Option Binary64 :=
  if num = 0 then some zero
  else
    let guess : Int := (Nat.log2 num : Int) - (Nat.log2 den : Int)
    let top := if atLeastPow2 num den guess then guess else guess - 1
    let exp := max (top - 52) minExp
    let mant := if 0 ≤ exp then roundDiv num (den * twoTo exp.toNat) else roundDiv (num * twoTo (-exp).toNat) den
    let rounded : Binary64 := if mant = twoTo 53 then ⟨twoTo 52, exp + 1⟩ else ⟨mant, exp⟩
    if maxExp < rounded.exp then none else some rounded

/-- The nearest double to a natural below `2 ^ 1023`; larger ones give zero, and no caller has one. -/
def ofNat (n : Nat) : Binary64 := (ofRatio n 1).getD zero

/-- The rounded product, none past the finite doubles. -/
def mul? (x y : Binary64) : Option Binary64 := ofRatio (x.num * y.num) (x.den * y.den)

/-- The rounded quotient by a number that is not zero, none past the finite doubles. -/
def div? (x y : Binary64) : Option Binary64 := ofRatio (x.num * y.den) (x.den * y.num)

/-- The rounded sum, none past the finite doubles. -/
def add? (x y : Binary64) : Option Binary64 := ofRatio (x.num * y.den + y.num * x.den) (x.den * y.den)

end Binary64

end GateRunner
