import GateRunner.Tool.Show

/-!
# Counting

`wc` counts what is in files, `uniq` counts lines that repeat each other.
-/

namespace GateRunner

/-! ## `wc` -/

/-- Whether a character is a blank between words. -/
def isSpace (c : Char) : Bool := c = ' ' || (9 ≤ c.toNat && c.toNat ≤ 13)

/-- What is counted in a text. -/
structure Counts where
  lines : Nat
  words : Nat
  bytes : Nat
  longest : Nat

/-- Counts of nothing. -/
def Counts.zero : Counts := ⟨0, 0, 0, 0⟩

/-- Counts of several texts together. -/
def Counts.add (a b : Counts) : Counts := ⟨a.lines + b.lines, a.words + b.words, a.bytes + b.bytes, max a.longest b.longest⟩

/-- How counting goes on: whether a word has begun, and the place in the line. -/
structure Counter where
  counts : Counts
  inWord : Bool
  column : Nat

/-- One character more. -/
def Counter.step (s : Counter) (c : Char) : Counter :=
  let counts := { s.counts with bytes := s.counts.bytes + 1 }
  if c = '\n' || c = '\r' || c = '\x0c' then
    let lines := if c = '\n' then counts.lines + 1 else counts.lines
    ⟨{ counts with lines, longest := max counts.longest s.column }, false, 0⟩
  else if c = '\t' then ⟨counts, false, (s.column / 8 + 1) * 8⟩
  else if isSpace c then ⟨counts, false, s.column + if c = ' ' then 1 else 0⟩
  else
    let column := if prints c then s.column + 1 else s.column
    let begins := prints c && !s.inWord
    ⟨{ counts with words := if begins then counts.words + 1 else counts.words }, s.inWord || prints c, column⟩

/-- The counts of a text. -/
def countsOf (text : String) : Counts :=
  let s := text.toList.foldl Counter.step ⟨.zero, false, 0⟩
  { s.counts with longest := max s.counts.longest s.column }

/-- The counts that are wanted, as they stand on a line. -/
def Counts.row (wanted : List Char) (width : Nat) (counts : Counts) (name : String) : String :=
  let one (letter : Char) : Nat :=
    match letter with
    | 'l' => counts.lines
    | 'w' => counts.words
    | 'L' => counts.longest
    | _ => counts.bytes
  let shown := (['l', 'w', 'm', 'c', 'L'].filter wanted.contains).map fun letter => padLeft width (toString (one letter))
  " ".intercalate shown ++ (if name = "" then "" else " " ++ name) ++ "\n"

/-- A counted operand: its counts, if it could be read, and whether it is a file. -/
structure Counted where
  operand : String
  counts : Except PathError Counts
  isFile : Bool

/-- The counts of an operand. -/
def countOperand (c : Call) (operand : String) : Action Counted := do
  let isFile := !meansInput operand || (← .inputKind) = .file
  let text ← c.textOf operand
  return ⟨operand, text.map countsOf, isFile⟩

/-- `wc`. -/
def wcProgram : Tool :=
  withOptions
    [flag 'l' "lines", flag 'w' "words", flag 'c' "bytes", flag 'm' "chars", flag 'L' "max-line-length",
      valued '\x01' "total"] 1
    fun c o => do
      let given := ['l', 'w', 'm', 'c', 'L'].filter o.has
      let wanted := if given.isEmpty then ['l', 'w', 'c'] else given
      let counted ← (orInput o.operands).mapM (countOperand c)
      let sizes := counted.map fun r =>
        match r.counts with
        | .ok counts => if r.isFile then counts.bytes else 0
        | .error _ => 0
      let special := counted.any fun r =>
        match r.counts with
        | .ok _ => !r.isFile
        | .error .isADirectory => true
        | .error _ => false
      let width := if counted.length ≤ 1 && wanted.length = 1 then 1
        else max (if special then 7 else 1) (toString (sizes.foldl (· + ·) 0)).length
      let rec rows (well : Bool) : List Counted → Action Bool
        | [] => return well
        | r :: rest => do
          let name := if o.operands.isEmpty then "" else r.operand
          match r.counts with
          | .ok counts =>
            .say (counts.row wanted width name)
            rows well rest
          | .error e =>
            c.complainOf r.operand e
            if e = .isADirectory then .say (Counts.zero.row wanted width name)
            rows false rest
      let well ← rows true counted
      let totals := counted.foldl (fun sum r => match r.counts with
        | .ok counts => sum.add counts
        | .error _ => sum) Counts.zero
      if 1 < counted.length then .say (totals.row wanted width "total")
      return statusOf well

/-! ## `uniq` -/

/-- What of a line counts when lines are compared. -/
structure LineKey where
  skipFields : Nat
  skipChars : Nat
  length : Option Nat
  ignoresCase : Bool

/-- The text after some fields, each with the blanks before it. -/
def afterFields : Nat → List Char → List Char
  | 0, text => text
  | n + 1, text => afterFields n ((text.dropWhile (fun c => c = ' ' || c = '\t')).dropWhile fun c => c ≠ ' ' && c ≠ '\t')

/-- What counts of a line. -/
def LineKey.of (k : LineKey) (line : String) : List Char :=
  let text := (afterFields k.skipFields line.toList).drop k.skipChars
  let text := match k.length with
    | some n => text.take n
    | none => text
  if k.ignoresCase then text.map Char.toUpper else text

/-- Lines with equal neighbours put together. -/
def groupLines (key : String → List Char) : List String → List (List String)
  | [] => []
  | line :: rest =>
    match groupLines key rest with
    | (next :: more) :: groups =>
      if key line = key next then (line :: next :: more) :: groups else [line] :: (next :: more) :: groups
    | _ => [[line]]

/-- `uniq`. -/
def uniqProgram : Tool :=
  withOptions
    [flag 'c' "count", flag 'd' "repeated", flag 'D' "", ⟨'D', "all-repeated", true, true⟩, valued 'f' "skip-fields",
      flag 'i' "ignore-case", valued 's' "skip-chars", flag 'u' "unique", valued 'w' "check-chars",
      flag 'z' "zero-terminated"] 1
    fun c o => do
      let number (letter : Char) : Nat := ((o.value? letter).bind wholeNatural?).getD 0
      match o.operands with
      | _ :: _ :: extra :: _ => c.refuseWithHint ("extra operand " ++ quoted extra) 1
      | operands =>
        match ← c.textOf (operands.headD "-") with
        | .error e =>
          match e with
          | .isADirectory => c.refuse ("error reading " ++ quoted (operands.headD "-") ++ ": " ++ e.text) 1
          | e => c.refuse (shownName (operands.headD "-") ++ ": " ++ e.text) 1
        | .ok text =>
          let key : LineKey := ⟨number 'f', number 's', (o.value? 'w').bind wholeNatural?, o.has 'i'⟩
          let groups := groupLines key.of (textLines text)
          let kept := groups.filter fun g => if 1 < g.length then !o.has 'u' else !(o.has 'd' || o.has 'D')
          let row (g : List String) : String :=
            if o.has 'D' then ofLines g
            else (if o.has 'c' then padLeft 7 (toString g.length) ++ " " else "") ++ g.headD "" ++ "\n"
          let output := String.join (kept.map row)
          match operands.drop 1 with
          | [] =>
            .say output
            return 0
          | name :: _ =>
            let disk ← .disk
            match disk.write (c.path name) (Bytes.toList output) with
            | .ok disk =>
              .keep disk
              return 0
            | .error e => c.refuse (shownName name ++ ": " ++ e.text) 1

end GateRunner
