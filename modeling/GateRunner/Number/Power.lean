/-!
# Powers and the bounds of words

The powers of two and of ten, and the number of values that a word of 64 bits has.
-/

namespace GateRunner

/-- Two to the power of `k`. -/
def twoTo (k : Nat) : Nat := Nat.pow 2 k

/-- Ten to the power of `k`. -/
def tenTo (k : Nat) : Nat := Nat.pow 10 k

/-- The least number that does not fit in 64 bits. -/
def wordBound : Nat := 18446744073709551616

end GateRunner
