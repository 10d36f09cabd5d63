import GateRunner.Number.Decimal

/-!
# The extent of a check

How many files a check looked at, and how many lines they have. Checks of one category mostly look at the same files,
so extents are combined by `max`, part by part; `add` is for extents that do not overlap.
-/

namespace GateRunner

/-- Files examined and the lines in them. -/
structure Extent where
  files : Nat
  lines : Nat
deriving DecidableEq, Repr, Inhabited

namespace Extent

/-- Nothing examined. -/
def zero : Extent := ⟨0, 0⟩

/-- The larger of two extents, part by part. -/
def max (a b : Extent) : Extent := ⟨Nat.max a.files b.files, Nat.max a.lines b.lines⟩

/-- The sum of two extents, part by part. -/
def add (a b : Extent) : Extent := ⟨a.files + b.files, a.lines + b.lines⟩

instance : Add Extent := ⟨add⟩

/-- The digits of a number with a comma between thousands. -/
def grouped (digits : List Char) : List Char :=
  match digits with
  | [] => []
  | d :: rest => if rest.length % 3 = 0 ∧ rest ≠ [] then d :: ',' :: grouped rest else d :: grouped rest

/-- A number of lines as a short text: grouped below ten thousand, and from there on in thousands with one place. -/
def linesText (lines : Nat) : String :=
  if 10000 ≤ lines then
    let thousands := ((Binary64.ofNat lines).div? (Binary64.ofNat 1000)).getD .zero
    thousands.fixed 1 ++ "k LOC"
  else String.ofList (grouped (toString lines).toList) ++ " LOC"

/-- The extent as a short text such as `47 files · 3,200 LOC`; a part that is zero is left out. -/
def compact (s : Extent) : String :=
  let files := if 0 < s.files then [toString s.files ++ " files"] else []
  let lines := if 0 < s.lines then [linesText s.lines] else []
  " · ".intercalate (files ++ lines)

end Extent

end GateRunner
