/-!
# Counting lines

A line ends at a line feed or at the end of the text; a final line feed begins no further line.
-/

namespace GateRunner

/-- The number of lines of a text: a line feed ends one, and so does the end of a text that has begun one. -/
def lineCount (text : List Char) : Nat := go false text
where
  /-- Counts on, knowing whether a line has begun. -/
  go : Bool → List Char → Nat
    | begun, [] => if begun then 1 else 0
    | _, c :: rest => if c = '\n' then go false rest + 1 else go true rest

example : lineCount "".toList = 0 ∧ lineCount "a\n".toList = 1 ∧ lineCount "a\n\nb".toList = 3 := by decide

end GateRunner
