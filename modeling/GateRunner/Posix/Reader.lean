import GateRunner.Number.Digits
import GateRunner.Posix.Pattern

/-!
# Reading regular expressions

Regular expressions are written in one of two ways: the basic one, in which most operators need a backslash, and the
extended one, in which they go without.
-/

namespace GateRunner.Posix

/-- How an expression is written and meant. -/
structure Dialect where
  extended : Bool
  ignoresCase : Bool
  /-- Whether operators that are out of place are refused, and not taken for what they could be. -/
  strict : Bool

/-- What is wrong with an expression. -/
inductive Fault
  | unmatchedBracket
  | unmatchedOpen
  | unmatchedClose
  | unmatchedBrace
  | badRepetition
  | badClassName
  | badRange
  | badReference
  | trailingBackslash
  | nothingToRepeat
  | tooBig
deriving DecidableEq

/-- The wording of a fault. -/
def Fault.message : Fault → String
  | .unmatchedBracket => "Unmatched [, [^, [:, [., or [="
  | .unmatchedOpen => "Unmatched ( or \\("
  | .unmatchedClose => "Unmatched ) or \\)"
  | .unmatchedBrace => "Unmatched \\\x7b"
  | .badRepetition => "Invalid content of \\\x7b\\\x7d"
  | .badClassName => "Invalid character class name"
  | .badRange => "Invalid range end"
  | .badReference => "Invalid back reference"
  | .trailingBackslash => "Trailing backslash"
  | .nothingToRepeat => "Invalid preceding regular expression"
  | .tooBig => "Regular expression too big"

/-- A class of characters by its name. -/
def namedClass? (name : String) : Option (Char → Bool) :=
  let graph (c : Char) : Bool := 32 < c.toNat && c.toNat < 127
  match name with
  | "alnum" => some Char.isAlphanum
  | "alpha" => some Char.isAlpha
  | "blank" => some fun c => c = ' ' || c = '\t'
  | "cntrl" => some fun c => c.toNat < 32 || c.toNat = 127
  | "digit" => some Char.isDigit
  | "graph" => some graph
  | "lower" => some Char.isLower
  | "print" => some fun c => c = ' ' || graph c
  | "punct" => some fun c => graph c && !c.isAlphanum
  | "space" => some fun c => c = ' ' || (9 ≤ c.toNat && c.toNat ≤ 13)
  | "upper" => some Char.isUpper
  | "xdigit" => some fun c => (hexDigit? c).isSome
  | _ => none

/-- A test that does not tell capitals from small letters, if they are to be ignored. -/
def Dialect.fold (d : Dialect) (test : Char → Bool) : Char → Bool :=
  if d.ignoresCase then fun c => test c || test c.toLower || test c.toUpper else test

/-- The text up to two characters that close an item of a set. -/
def upToMark (mark : Char) : List Char → Option (List Char × List Char)
  | c :: ']' :: rest => if c = mark then some ([], rest)
    else (upToMark mark (']' :: rest)).map fun (text, rest) => (c :: text, rest)
  | c :: rest => (upToMark mark rest).map fun (text, rest) => (c :: text, rest)
  | [] => none

/-- A single character of a set, which may be written as an item, with what follows it. -/
def setChar : List Char → Except Fault (Char × List Char)
  | '[' :: '.' :: rest | '[' :: '=' :: rest =>
    match upToMark '.' rest <|> upToMark '=' rest with
    | some ([c], rest) => .ok (c, rest)
    | some _ => .error .badRange
    | none => .error .unmatchedBracket
  | c :: rest => .ok (c, rest)
  | [] => .error .unmatchedBracket

/-- The rest of a set of characters, after its first bracket. -/
def readSet : Nat → Bool → (Char → Bool) → List Char → Except Fault ((Char → Bool) × List Char)
  | 0, _, _, _ => .error .unmatchedBracket
  | _, _, _, [] => .error .unmatchedBracket
  | _, false, test, ']' :: rest => .ok (test, rest)
  | fuel + 1, _, test, '[' :: ':' :: rest =>
    match upToMark ':' rest with
    | none => .error .unmatchedBracket
    | some (name, rest) =>
      match namedClass? (String.ofList name) with
      | none => .error .badClassName
      | some more => readSet fuel false (fun c => test c || more c) rest
  | fuel + 1, _, test, text => do
    let (first, rest) ← setChar text
    match rest with
    | '-' :: ']' :: _ => readSet fuel false (fun c => test c || c = first) rest
    | '-' :: after =>
      let (last, rest) ← setChar after
      if last < first then throw .badRange
      readSet fuel false (fun c => test c || (first ≤ c && c ≤ last)) rest
    | _ => readSet fuel false (fun c => test c || c = first) rest

/-- How far an expression has been read. -/
structure ReadState where
  rest : List Char
  groups : Nat
  depth : Nat
  /-- The groups that have been closed. -/
  closed : List Nat
  /-- What looked odd but has a meaning. -/
  warnings : List String

/-- Reading an expression. -/
abbrev Reading := StateT ReadState (Except Fault)

/-- Goes on from another place. -/
def goTo (rest : List Char) : Reading Unit := modify fun s => { s with rest }

/-- A remark about something odd. -/
def remark (text : String) : Reading Unit := modify fun s => { s with warnings := s.warnings ++ [text] }

/-- The bounds of a repetition between braces, with what follows, if they are well formed. -/
def bounds? (dialect : Dialect) (text : List Char) : Option (Nat × Option Nat × List Char) :=
  let least := text.takeWhile Char.isDigit
  let rest := text.drop least.length
  let close (rest : List Char) : Option (List Char) :=
    match rest, dialect.extended with
    | '\x7d' :: rest, true => some rest
    | '\\' :: '\x7d' :: rest, false => some rest
    | _, _ => none
  let value := digitsValue 10
  match rest with
  | ',' :: rest =>
    let most := rest.takeWhile Char.isDigit
    (close (rest.drop most.length)).map fun rest =>
      (value least, if most.isEmpty then none else some (value most), rest)
  | _ => if least.isEmpty then none else (close rest).map fun rest => (value least, some (value least), rest)

/-- The greatest number of repetitions. -/
def mostRepetitions : Nat := 32767

/-- What follows an operator that repeats, if there is one: how often, and the rest. -/
def readRepetition (d : Dialect) (text : List Char) : Except Fault (Option (Nat × Option Nat × List Char)) :=
  let braces (rest : List Char) : Except Fault (Option (Nat × Option Nat × List Char)) :=
    match bounds? d rest with
    | some (least, most, rest) =>
      if most.any (· < least) then .error .badRepetition
      else if mostRepetitions < least || most.any (mostRepetitions < ·) then .error .tooBig
      else .ok (some (least, most, rest))
    | none =>
      if d.extended && !d.strict then .ok none
      else if d.extended then .error (if rest.contains '\x7d' then .badRepetition else .unmatchedBrace)
      else if (upToMark '\\' (rest.map fun c => if c = '\x7d' then ']' else c)).isNone then .error .unmatchedBrace
      else .error .badRepetition
  match text, d.extended with
  | '*' :: rest, _ => .ok (some (0, none, rest))
  | '+' :: rest, true | '\\' :: '+' :: rest, false => .ok (some (1, none, rest))
  | '?' :: rest, true | '\\' :: '?' :: rest, false => .ok (some (0, some 1, rest))
  | '\x7b' :: rest, true | '\\' :: '\x7b' :: rest, false => braces rest
  | _, _ => .ok none

/-- Operators that repeat what has been read before. -/
def readRepetitions (d : Dialect) : Nat → Node → Reading Node
  | 0, node => return node
  | fuel + 1, node => do
    match ← (readRepetition d (← get).rest : Except Fault _) with
    | some (least, most, rest) =>
      goTo rest
      if d.strict && !d.extended && (← (readRepetition d rest : Except Fault _)).isSome then throw .nothingToRepeat
      readRepetitions d fuel (.repeated node least most)
    | none => return node

/-- What a backslash and a letter stand for in both ways of writing. -/
def escapeNode? (c : Char) : Option Node :=
  let word (c : Char) : Bool := c.isAlphanum || c = '_'
  let space (c : Char) : Bool := c = ' ' || (9 ≤ c.toNat && c.toNat ≤ 13)
  match c with
  | 'w' => some (.one word)
  | 'W' => some (.one fun c => !word c)
  | 's' => some (.one space)
  | 'S' => some (.one fun c => !space c)
  | 'b' => some (.boundary true)
  | 'B' => some (.boundary false)
  | '<' => some .wordStart
  | '>' => some .wordEnd
  | '\'' => some .textEnd
  | _ => if c.toNat = 96 then some .textStart else none

/-- Whether the expression, or the group or the branch at work, ends here. -/
def endsHere (d : Dialect) (depth : Nat) : List Char → Bool
  | [] => true
  | '|' :: _ => d.extended
  | ')' :: _ => d.extended && 0 < depth
  | '\\' :: '|' :: _ | '\\' :: ')' :: _ => !d.extended
  | _ => false

mutual

/-- Branches, of which one has to match. -/
def readBranches (d : Dialect) : Nat → Reading Node
  | 0 => return .empty
  | fuel + 1 => do
    let first ← readBranch d fuel true
    match (← get).rest, d.extended with
    | '|' :: rest, true | '\\' :: '|' :: rest, false =>
      goTo rest
      return .alt first (← readBranches d fuel)
    | _, _ => return first

/-- One branch from where it goes on. -/
def readBranch (d : Dialect) : Nat → Bool → Reading Node
  | 0, _ => return .empty
  | fuel + 1, atStart => do
    let s ← get
    if endsHere d s.depth s.rest then return .empty
    let first ← readPiece d fuel atStart
    let fixed := match first with
      | .lineStart => true
      | _ => false
    let rest ← readBranch d fuel (atStart && fixed && !d.extended)
    match rest with
    | .empty => return first
    | rest => return .seq first rest

/-- A piece with the operators that repeat it. -/
def readPiece (d : Dialect) : Nat → Bool → Reading Node
  | 0, _ => return .empty
  | fuel + 1, atStart => do
    let s ← get
    let plain (c : Char) (rest : List Char) : Reading Node := do
      goTo rest
      readRepetitions d fuel (.one (d.fold (· = c)))
    let node (n : Node) (rest : List Char) : Reading Node := do
      goTo rest
      readRepetitions d fuel n
    let group (rest : List Char) : Reading Node := do
      let number := s.groups + 1
      set { s with rest, groups := number, depth := s.depth + 1 }
      let body ← readBranches d fuel
      let after ← get
      match after.rest, d.extended with
      | ')' :: rest, true | '\\' :: ')' :: rest, false =>
        set { after with rest, depth := s.depth, closed := number :: after.closed }
        readRepetitions d fuel (.group number body)
      | _, _ => throw .unmatchedOpen
    match s.rest with
    | [] => return .empty
    | '[' :: rest =>
      let (negated, inner) := match rest with
        | '^' :: inner => (true, inner)
        | _ => (false, rest)
      let (test, after) ← (readSet (inner.length + 1) true (fun _ => false) inner : Except Fault _)
      let test := d.fold test
      node (.one fun c => test c != negated) after
    | '.' :: rest => node (.one fun _ => true) rest
    | '^' :: rest =>
      if d.extended then node .lineStart rest
      else if atStart then
        goTo rest
        return .lineStart
      else plain '^' rest
    | '$' :: rest =>
      if d.extended then node .lineEnd rest
      else if endsHere d s.depth rest then
        goTo rest
        return .lineEnd
      else plain '$' rest
    | '(' :: rest => if d.extended then group rest else plain '(' rest
    | ')' :: rest => if d.strict && d.extended then throw .unmatchedClose else plain ')' rest
    | '*' :: rest =>
      if d.extended then
        if d.strict then throw .nothingToRepeat
        if atStart then remark "* at start of expression"
        goTo rest
        return .empty
      else plain '*' rest
    | '\\' :: [] => throw .trailingBackslash
    | '\\' :: c :: rest =>
      if c = '(' && !d.extended then group rest
      else if c = ')' && !d.extended then throw .unmatchedClose
      else if c.isDigit && c ≠ '0' then
        let number := c.toNat - 48
        if !s.closed.contains number then throw .badReference
        node (.back number) rest
      else
        match escapeNode? c with
        | some n => node n rest
        | none =>
          if !d.extended && atStart && (c = '+' || c = '?' || c = '\x7b') then
            if c = '\x7b' then throw .nothingToRepeat
            plain c rest
          else plain c rest
    | c :: rest =>
      if d.extended && d.strict && (c = '+' || c = '?' || c = '\x7b') then throw .nothingToRepeat
      else if d.extended && (c = '+' || c = '?') then
        if atStart then remark (String.singleton c ++ " at start of expression")
        goTo rest
        return .empty
      else if d.extended && c = '\x7b' && (bounds? d rest).isSome then
        if atStart then remark "\x7b...\x7d at start of expression"
        match bounds? d rest with
        | some (_, _, rest) => goTo rest
        | none => pure ()
        return .empty
      else plain c rest

end

/-- An expression with the remarks about it. -/
def parse (d : Dialect) (text : String) : Except Fault (Node × List String) := do
  let start : ReadState := ⟨text.toList, 0, 0, [], []⟩
  let (node, s) ← (readBranches d (4 * text.length + 8)).run start
  match s.rest with
  | [] => return (node, s.warnings)
  | _ => throw .unmatchedClose

end GateRunner.Posix
