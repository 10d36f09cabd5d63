/-!
# Sets of characters

A set is a list of ranges of code points, in order and apart from each other.
-/

namespace GateRunner.Pattern

/-- A set of characters, as ranges of code points. -/
abbrev CharSet := List (Nat × Nat)

namespace CharSet

/-- The last code point. -/
def lastPoint : Nat := 0x10FFFF

/-- Whether a code point is in the set. -/
def has (s : CharSet) (point : Nat) : Bool :=
  match s with
  | [] => false
  | (low, high) :: rest => if point < low then false else if point ≤ high then true else has rest point

/-- Ranges in order of their beginnings, those that touch being made one. -/
def fuse : Nat × Nat → CharSet → CharSet
  | range, [] => [range]
  | (low, high), (low', high') :: rest =>
    if low' ≤ high + 1 then fuse (low, max high high') rest else (low, high) :: fuse (low', high') rest

/-- The set of ranges that stand in any order and may overlap. -/
def ofRanges (ranges : List (Nat × Nat)) : CharSet :=
  match ranges.mergeSort (fun a b => a.1 ≤ b.1) with
  | [] => []
  | first :: rest => fuse first rest

/-- The set of some code points. -/
def ofPoints (points : List Nat) : CharSet := ofRanges (points.map fun p => (p, p))

/-- The set of one character. -/
def single (c : Char) : CharSet := [(c.toNat, c.toNat)]

/-- What is in one of two sets. -/
def union (a b : CharSet) : CharSet := ofRanges (a ++ b)

/-- What is between the ranges, from a code point on. -/
def gaps (start : Nat) : CharSet → CharSet
  | [] => if start ≤ lastPoint then [(start, lastPoint)] else []
  | (low, high) :: rest => if start < low then (start, low - 1) :: gaps (high + 1) rest else gaps (high + 1) rest

/-- What is not in the set. -/
def complement (s : CharSet) : CharSet := gaps 0 s

/-- What is in both sets. -/
def inter (a b : CharSet) : CharSet := complement (union (complement a) (complement b))

/-- What is in the first set and not in the second. -/
def diff (a b : CharSet) : CharSet := inter a (complement b)

/-- What is in one of two sets and not in the other. -/
def symDiff (a b : CharSet) : CharSet := union (diff a b) (diff b a)

/-- Every character. -/
def all : CharSet := [(0, lastPoint)]

end CharSet

end GateRunner.Pattern
