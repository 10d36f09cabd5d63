import GateRunner.Number.Digits
import GateRunner.Program.Action

/-!
# Permissions in words

The permissions of a file are given as an octal number, or as changes for its owner, its group and all others.
-/

namespace GateRunner

/-- What a change of permissions does with the bits it names. -/
inductive ModeChange
  | adds
  | removes
  | sets
deriving DecidableEq

/-- A change of permissions: for whom, what is done, and with which of reading, writing and running. -/
structure ModeClause where
  /-- The bits of those it is for. -/
  who : Nat
  /-- Whether nobody was named, so that the mask counts. -/
  masked : Bool
  change : ModeChange
  /-- The three bits of a class. -/
  bits : Nat
  /-- The class whose bits are taken as well, by how many classes are below it. -/
  like : Option Nat
  /-- The bits above those of the classes. -/
  special : Nat
  /-- Whether running is meant only for directories and for files that somebody may run. -/
  runIfAny : Bool

/-- The bits that are not given where nobody is named. -/
def standardMask : Nat := 0o022

/-- The bits of a class in all three classes. -/
def inAllClasses (bits : Nat) : Nat := bits * 0o111

namespace ModeClause

/-- The permissions after a change. -/
def apply (c : ModeClause) (isDir : Bool) (mode : Nat) : Nat :=
  let run := if c.runIfAny && (isDir || mode &&& 0o111 ≠ 0) then 1 else 0
  let taken := match c.like with
    | some below => mode / Nat.pow 8 below % 8
    | none => 0
  let bits := inAllClasses (c.bits ||| run ||| taken) &&& c.who
  let bits := (if c.masked then bits &&& (0o777 ^^^ standardMask) else bits) ||| c.special
  match c.change with
  | .adds => mode ||| bits
  | .removes => mode &&& (0o7777 ^^^ bits)
  | .sets => (mode &&& (0o7777 ^^^ (c.who &&& 0o777))) ||| bits

end ModeClause

/-- The changes of one part of a description, after those it is for. -/
def modeActions (who : Nat) (masked : Bool) : Nat → List Char → Option (List ModeClause)
  | 0, _ => none
  | _, [] => some []
  | fuel + 1, sign :: rest =>
    let change : Option ModeChange :=
      match sign with
      | '+' => some .adds
      | '-' => some .removes
      | '=' => some .sets
      | _ => none
    match change with
    | none => none
    | some change =>
      let letters := rest.takeWhile (fun c => c ∈ ['r', 'w', 'x', 'X', 's', 't'])
      let bit (letter : Char) (value : Nat) : Nat := if letters.contains letter then value else 0
      let others (bits : Nat) : Bool := who &&& bits ≠ 0
      let special := (if others 0o700 then bit 's' 0o4000 else 0) + (if others 0o070 then bit 's' 0o2000 else 0) +
        if others 0o007 then bit 't' 0o1000 else 0
      let clause (like : Option Nat) : ModeClause :=
        ⟨who, masked, change, bit 'r' 4 + bit 'w' 2 + bit 'x' 1, like, special, letters.contains 'X'⟩
      let after := rest.drop letters.length
      match letters, after with
      | [], 'u' :: after => (modeActions who masked fuel after).map (clause (some 2) :: ·)
      | [], 'g' :: after => (modeActions who masked fuel after).map (clause (some 1) :: ·)
      | [], 'o' :: after => (modeActions who masked fuel after).map (clause (some 0) :: ·)
      | _, _ => (modeActions who masked fuel after).map (clause none :: ·)

/-- One part of a description: those it is for, and changes. -/
def modeClause? (text : List Char) : Option (List ModeClause) :=
  let named := text.takeWhile (fun c => c ∈ ['u', 'g', 'o', 'a'])
  let class_ (letter : Char) (bits : Nat) : Nat := if named.contains letter || named.contains 'a' then bits else 0
  let who := if named.isEmpty then 0o777 else class_ 'u' 0o700 + class_ 'g' 0o070 + class_ 'o' 0o007
  match text.drop named.length with
  | [] => none
  | rest => modeActions who named.isEmpty (rest.length + 1) rest

/-- The permissions that a description makes of others, if it is one. -/
def modeOf? (text : String) : Option (Bool → Nat → Nat) :=
  if text ≠ "" && text.toList.all isOctal then
    let n := digitsValue 8 text.toList
    if n < 0o10000 then some fun _ _ => n else none
  else do
    let clauses ← (text.splitOn ",").mapM fun part => modeClause? part.toList
    return fun isDir mode => clauses.flatten.foldl (fun mode c => c.apply isDir mode) mode

/-- Permissions as letters. The bits above those of the classes are shown in the place for running. -/
def modeLetters (mode : Nat) : String :=
  let run (canRun isSpecial : Bool) (both only : Char) : Char :=
    if isSpecial then if canRun then both else only else if canRun then 'x' else '-'
  let class_ (bits : Nat) (special : Nat) (both only : Char) : List Char :=
    [if bits &&& 4 ≠ 0 then 'r' else '-', if bits &&& 2 ≠ 0 then 'w' else '-',
      run (bits &&& 1 ≠ 0) (mode &&& special ≠ 0) both only]
  String.ofList (class_ (mode / 64 % 8) 0o4000 's' 'S' ++ class_ (mode / 8 % 8) 0o2000 's' 'S' ++
    class_ (mode % 8) 0o1000 't' 'T')

/-- A number in octal notation with at least so many digits. -/
def octalText (width n : Nat) : String :=
  let digits := String.ofList (Nat.toDigits 8 n)
  String.ofList (List.replicate (width - digits.length) '0') ++ digits

/-- The permissions of an entry. -/
def Entry.mode : Entry → Nat
  | .file _ status => status.mode
  | .dir _ => 0o755
  | .link _ => 0o777

end GateRunner
