import GateRunner.Number.Binary64

/-!
# Decimal texts of doubles

Two ways of writing a double. `Binary64.fixed` gives a set number of places, rounding the exact value, a half to the
even neighbour. `Binary64.shortest` gives the fewest digits that still name the double and no other: the value's two
neighbours on each decimal grid are tried, coarse grids first, and the first grid with a point inside the interval of
reals that round to the double wins.
-/

namespace GateRunner

/-- `n` in decimal, padded on the left with zeros to `width` digits. -/
def paddedDigits (width n : Nat) : String :=
  let digits := toString n
  String.ofList (List.replicate (width - digits.length) '0') ++ digits

/-- A decimal of a finite digit string: the value is `digits · 10 ^ exp`. -/
structure Decimal where
  digits : Nat
  exp : Int
deriving DecidableEq, Repr, Inhabited

/-- The decimal in positional notation, with a point only where a fraction follows. -/
def Decimal.positional (d : Decimal) : String :=
  if 0 ≤ d.exp then toString (d.digits * tenTo d.exp.toNat)
  else
    let places := (-d.exp).toNat
    toString (d.digits / tenTo places) ++ "." ++ paddedDigits places (d.digits % tenTo places)

namespace Binary64

/-- The value with `places` decimal places, rounded from the exact value, a half going to the even neighbour. -/
def fixed (places : Nat) (x : Binary64) : String :=
  let scaled := roundDiv (x.num * tenTo places) x.den
  if places = 0 then toString scaled
  else toString (scaled / tenTo places) ++ "." ++ paddedDigits places (scaled % tenTo places)

/-- The reals that round to a double: from `low / den` to `high / den` around `value / den`, ends included when the
significand is even. -/
structure Interval where
  low : Nat
  value : Nat
  high : Nat
  den : Nat
  closed : Bool

/-- The interval of a double. Below a power of two the doubles lie twice as dense, so the lower half-gap is half as
wide there. -/
def interval (x : Binary64) : Interval :=
  let below := if x.mant = twoTo 52 ∧ minExp < x.exp then 1 else 2
  let up := if 0 ≤ x.exp then twoTo x.exp.toNat else 1
  let down := if 0 ≤ x.exp then 4 else 4 * twoTo (-x.exp).toNat
  { low := (4 * x.mant - below) * up, value := 4 * x.mant * up, high := (4 * x.mant + 2) * up,
    den := down, closed := x.mant % 2 = 0 }

/-- Whether `num / den` lies in the interval. -/
def Interval.contains (i : Interval) (num den : Nat) : Bool :=
  let a := num * i.den
  let lo := i.low * den
  let hi := i.high * den
  if i.closed then lo ≤ a && a ≤ hi else lo < a && a < hi

/-- The point of the grid `10 ^ k` that names the interval's double: the nearer of the value's two neighbours that lie
in the interval, the upper one of two equally near. -/
def Interval.pointOn (i : Interval) (k : Int) : Option Decimal :=
  let mul := if 0 ≤ k then tenTo k.toNat else 1
  let div := if 0 ≤ k then 1 else tenTo (-k).toNat
  let below := i.value * div / (i.den * mul)
  let hit (n : Nat) : Bool := n ≠ 0 && i.contains (n * mul) div
  let nearerBelow : Bool := 2 * (i.value * div) < (2 * below + 1) * (i.den * mul)
  match hit below, hit (below + 1) with
  | false, false => none
  | true, false => some ⟨below, k⟩
  | false, true => some ⟨below + 1, k⟩
  | true, true => some ⟨if nearerBelow then below else below + 1, k⟩

/-- The first grid with a point in the interval, going down from `10 ^ k`. -/
def Interval.search (i : Interval) : Nat → Int → Decimal
  | 0, k => ⟨i.value / i.den, k⟩
  | fuel + 1, k => (i.pointOn k).getD (i.search fuel (k - 1))

/-- The fewest digits that read back as the double. Seventeen always do, so twenty-two grids are enough. -/
def shortest (x : Binary64) : Decimal :=
  if x.mant = 0 then ⟨0, 0⟩
  else
    let bits : Int := (Nat.log2 x.mant : Int) + x.exp
    let above : Int := bits * 30103 / 100000 + 1
    x.interval.search 22 above

end Binary64

end GateRunner
