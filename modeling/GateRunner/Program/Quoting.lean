import GateRunner.Program.Action

/-!
# Names in messages

How a program writes a name into a message: between quotes, so that the name could be given to a shell again, or bare
where that is as clear.
-/

namespace GateRunner

/-- Whether a character prints. -/
def prints (c : Char) : Bool := 32 ≤ c.toNat && c.toNat < 127

/-- Whether a character means the same between single quotes as between double ones. -/
def isPlainInQuotes (c : Char) : Bool := c.isAlphanum || c ∈ ['%', '+', ',', '-', '.', '/', ':', ']', '_', ' ', '\'']

/-- Whether a character at a place in a name may mean something to a shell. -/
def meansSomething (length place : Nat) (c : Char) : Bool :=
  !prints c || c ∈ " !\"$&'()*;<=>?[\\^`|".toList || (place = 0 && (c = '#' || c = '~')) ||
    (length = 1 && (c = '\x7b' || c = '\x7d'))

/-- The escape of a character that does not print. -/
def shownEscape (c : Char) : String :=
  match c with
  | '\x07' => "\\a"
  | '\x08' => "\\b"
  | '\t' => "\\t"
  | '\n' => "\\n"
  | '\x0b' => "\\v"
  | '\x0c' => "\\f"
  | '\r' => "\\r"
  | c => "\\" ++ String.ofList ((List.range 3).map fun i => Nat.digitChar (c.toNat / Nat.pow 8 (2 - i) % 8))

/-- Characters between quotes, from within the quotes on or from within an escape on. -/
def shellQuotedFrom (inEscape : Bool) : List Char → String
  | [] => "'"
  | c :: rest =>
    if prints c then
      let shown := if c = '\'' then "'\\''" else String.singleton c
      (if inEscape then "''" else "") ++ shown ++ shellQuotedFrom false rest
    else (if inEscape then "" else "'$'") ++ shownEscape c ++ shellQuotedFrom true rest

/-- A name between quotes. -/
def shellQuoted (name : String) : String :=
  let cs := name.toList
  if cs.contains '\'' && cs.all isPlainInQuotes then "\"" ++ name ++ "\"" else "'" ++ shellQuotedFrom false cs

/-- A name between quotes where a shell needs them. -/
def shownName (name : String) : String :=
  if name = "" || (name.toList.zipIdx.any fun (c, i) => meansSomething name.length i c) then shellQuoted name else name

end GateRunner
