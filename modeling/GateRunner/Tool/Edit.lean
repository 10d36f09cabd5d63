import GateRunner.Editor.Run
import GateRunner.Program.Options

/-!
# Editing streams of lines

`sed` runs a script over the lines of its input.
-/

namespace GateRunner

open Editor

/-- The pieces of the script, in the order in which they are given. -/
def scriptPieces (c : Call) : List (Char × String) → Action (Except String (List Piece))
  | [] => return .ok []
  | (letter, value) :: rest => do
    let piece : Except String (Option Piece) ←
      if letter = 'e' then pure (.ok (some ⟨value, none⟩))
      else if letter = 'f' then do
        match ← c.textOf value with
        | .ok text =>
          pure (.ok (some ⟨if text.endsWith "\n" then String.ofList text.toList.dropLast else text, some value⟩))
        | .error e => pure (.error ("couldn't open file " ++ value ++ ": " ++ e.text))
      else pure (.ok none)
    match piece, ← scriptPieces c rest with
    | .error e, _ | _, .error e => return .error e
    | .ok piece, .ok more => return .ok (piece.toList ++ more)

/-- How many lines are gone through at most. -/
def lineLimit : Nat := 100000000

/-- `sed`. -/
def sedProgram : Tool := fun c => do
  let usage : Action Nat := do
    .complain ("Usage: " ++ c.name ++ " [OPTION]... \x7bscript-only-if-no-other-script\x7d [input-file]...\n")
    return 1
  match readOptions
    [flag 'n' "quiet", flag 'n' "silent", valued 'e' "expression", valued 'f' "file", flag 'E' "regexp-extended",
      flag 'r' "", ⟨'i', "in-place", true, true⟩, valued 'l' "line-length", flag 's' "separate", flag 'u' "unbuffered",
      flag 'z' "null-data", flag '\x01' "posix", flag '\x02' "debug", flag '\x03' "follow-symlinks",
      flag '\x04' "sandbox"] c.args with
  | .error e =>
    c.complain e.message
    usage
  | .ok o =>
    match ← scriptPieces c o.given with
    | .error message => c.refuse message 4
    | .ok given =>
      let (pieces, operands) := match given, o.operands with
        | [], script :: rest => ([(⟨script, none⟩ : Piece)], rest)
        | given, operands => (given, operands)
      if pieces.isEmpty then usage
      else
        let script := "\n".intercalate (pieces.map (·.text))
        match parse (o.has 'E' || o.has 'r') script with
        | .error f => c.refuse (faultText pieces f) (if f.place.isNone then 4 else 1)
        | .ok steps =>
          let style : Style :=
            { silent := o.has 'n' || script = "#n" || script.startsWith "#n\n", separate := o.has 's',
              inPlace := if o.has 'i' then some ((o.value? 'i').getD "") else none, steps,
              lineEnd := if o.has 'z' then "\x00" else "\n" }
          (writtenFiles steps).forM fun name => do
            if !name.startsWith "/dev/" then
              let disk ← .disk
              match disk.write (c.path name) [] with
              | .ok disk => .keep disk
              | .error e => c.complain ("couldn't open file " ++ name ++ ": " ++ e.text)
          let run : Run :=
            { name := "-", lines := none, operands := orInput operands, ahead := none, number := 0, pattern := "",
              ended := true, kept := "", keptEnded := true, changed := false, covers := [], pending := [], lastExpression := none,
              lacksEnd := false, edited := [], readers := [], status := 0, well := true }
          return (← runLines c style lineLimit false run).status

end GateRunner
