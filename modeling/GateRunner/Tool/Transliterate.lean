import GateRunner.Program.Echo
import GateRunner.Tool.Show

/-!
# Exchanging characters

`tr` exchanges the characters of one set for those of another, place by place, deletes characters, and makes one of
several that are the same.
-/

namespace GateRunner

/-- A part of the description of a set of characters. -/
inductive SetPart
  | char (c : Char)
  | range (first last : Char)
  | named (name : String)
  | alike (c : Char)
  /-- The same several times; as often as it takes if no number is given. -/
  | repeated (c : Char) (count : Nat)

/-- The characters of a class. -/
def classChars? (name : String) : Option (List Char) :=
  let bytes := (List.range 256).map Char.ofNat
  let graph (c : Char) : Bool := 32 < c.toNat && c.toNat < 127
  let ofTest (test : Char → Bool) : Option (List Char) := some (bytes.filter test)
  match name with
  | "alnum" => ofTest Char.isAlphanum
  | "alpha" => ofTest Char.isAlpha
  | "blank" => ofTest fun c => c = ' ' || c = '\t'
  | "cntrl" => ofTest fun c => c.toNat < 32 || c.toNat = 127
  | "digit" => ofTest Char.isDigit
  | "graph" => ofTest graph
  | "lower" => ofTest Char.isLower
  | "print" => ofTest fun c => c = ' ' || graph c
  | "punct" => ofTest fun c => graph c && !c.isAlphanum
  | "space" => ofTest fun c => c = ' ' || (9 ≤ c.toNat && c.toNat ≤ 13)
  | "upper" => ofTest Char.isUpper
  | "xdigit" => ofTest fun c => (hexDigit? c).isSome
  | _ => none

/-- Characters with a mark for those that were written with a backslash. -/
def setChars : Nat → List Char → List (Char × Bool)
  | 0, _ => []
  | _, [] => []
  | fuel + 1, '\\' :: c :: rest =>
    if isOctal c then
      let digits := ((c :: rest).take 3).takeWhile isOctal
      let digits := if 255 < digitsValue 8 digits then digits.take 2 else digits
      (Char.ofNat (digitsValue 8 digits), true) :: setChars fuel ((c :: rest).drop digits.length)
    else
      let meant := if c = 'e' then c else (escapeLetter? c).getD c
      (meant, true) :: setChars fuel rest
  | fuel + 1, c :: rest => (c, false) :: setChars fuel rest

/-- What is wrong with the description of a set. -/
inductive SetFault
  | reversed (first last : Char)
  | unknownClass (name : String)
  | badCount (text : String)

/-- A character in a message about a range. -/
def shownInRange (c : Char) : String := if prints c then String.singleton c else shownEscape c

/-- The wording of a fault. -/
def SetFault.message : SetFault → String
  | .reversed first last =>
    "range-endpoints of '" ++ shownInRange first ++ "-" ++ shownInRange last ++
      "' are in reverse collating sequence order"
  | .unknownClass name => "invalid character class " ++ quoted name
  | .badCount text => "invalid repeat count " ++ quoted text ++ " in [c*n] construct"

/-- The text up to two characters in a row that close a class, with what follows them. -/
def upToClosing (mark : Char) : List (Char × Bool) → Option (List Char × List (Char × Bool))
  | (c, false) :: (']', false) :: rest =>
    if c = mark then some ([], rest)
    else (upToClosing mark ((']', false) :: rest)).map fun (text, rest) => (c :: text, rest)
  | (c, _) :: rest => (upToClosing mark rest).map fun (text, rest) => (c :: text, rest)
  | [] => none

/-- The parts of the description of a set. -/
def setParts : Nat → List (Char × Bool) → Except SetFault (List SetPart)
  | 0, _ => .ok []
  | _, [] => .ok []
  | fuel + 1, (c, marked) :: rest =>
    let single : Except SetFault (List SetPart) :=
      match rest with
      | ('-', false) :: (last, _) :: after =>
        if last < c then .error (.reversed c last)
        else (setParts fuel after).map (.range c last :: ·)
      | _ => (setParts fuel rest).map (.char c :: ·)
    if c ≠ '[' || marked then single
    else
      match rest with
      | (':', false) :: after =>
        match upToClosing ':' after with
        | some (name, more) =>
          let name := String.ofList name
          if (classChars? name).isNone then .error (.unknownClass name)
          else (setParts fuel more).map (.named name :: ·)
        | none => single
      | ('=', false) :: (x, _) :: ('=', false) :: (']', false) :: more =>
        (setParts fuel more).map (.alike x :: ·)
      | (x, _) :: ('*', false) :: after =>
        let digits := (after.takeWhile fun (c, marked) => !(c = ']' && !marked)).map (·.1)
        match after.drop digits.length with
        | [] => single
        | _ :: more =>
          if !digits.all Char.isDigit then .error (.badCount (String.ofList digits))
          else
            let base := if digits.head? = some '0' then 8 else 10
            (setParts fuel more).map (.repeated x (digitsValue base digits) :: ·)
      | _ => single

/-- The characters of a part. What is repeated as often as it takes fills up to a length. -/
def SetPart.chars (fill : Nat) : SetPart → List Char
  | .char c | .alike c => [c]
  | .range first last => (List.range (last.toNat + 1 - first.toNat)).map fun i => Char.ofNat (first.toNat + i)
  | .named name => (classChars? name).getD []
  | .repeated c count => List.replicate (if count = 0 then fill else count) c

/-- The characters of a description, which is to be of a length if part of it can be. -/
def charsOf (length : Nat) (parts : List SetPart) : List Char :=
  let given := (parts.map fun p => (p.chars 0).length).foldl (· + ·) 0
  parts.flatMap (SetPart.chars (length - given))

/-- The parts of a set by its description. -/
def parseSet (text : String) : Except SetFault (List SetPart) :=
  setParts (text.length + 1) (setChars (text.length + 1) text.toList)

/-- What is done with characters. -/
structure Exchange where
  deletes : Char → Bool
  exchanges : List (Char × Char)
  squeezes : Char → Bool

/-- Exchanging as a filter; it keeps the last character in mind. -/
def Exchange.filter (e : Exchange) : Filter (Option Char) :=
  let table : Array Char := ((List.range 256).map fun i =>
    (e.exchanges.lookup (Char.ofNat i)).getD (Char.ofNat i)).toArray
  let step (state : Option Char × List Char) (c : Char) : Option Char × List Char :=
    let (last, out) := state
    if e.deletes c then state
    else
      let c := (table[c.toNat]?).getD c
      if last = some c && e.squeezes c then state else (some c, c :: out)
  { block := fun last text =>
      let (last, out) := text.toList.foldl step (last, [])
      (last, String.ofList out.reverse),
    finish := fun last => (last, ""),
    stops := fun _ => false }

/-- Exchanging as the options and sets say, or what is wrong with them. -/
def exchangeOf (o : Options) (sets : List (List SetPart)) : Except String Exchange := do
  let complements := o.has 'c' || o.has 'C'
  let first := charsOf 0 (sets.headD [])
  let bytes := (List.range 256).map Char.ofNat
  let first := if complements then bytes.filter fun c => !first.contains c else first
  let second := sets.drop 1 |>.head?
  let contains (set : List Char) : Char → Bool :=
    let marks : Array Bool := (bytes.map fun c => set.contains c).toArray
    fun c => (marks[c.toNat]?).getD false
  let nothing : Char → Bool := fun _ => false
  if o.has 'd' then
    return ⟨contains first, [], if o.has 's' then contains (charsOf 0 (second.getD [])) else nothing⟩
  match second with
  | none => return ⟨nothing, [], contains first⟩
  | some parts =>
    let chars := charsOf first.length parts
    let refused := parts.any fun p =>
      match p with
      | .named name => name ≠ "upper" && name ≠ "lower"
      | _ => false
    if refused then
      throw "when translating, the only character classes that may appear in\nstring2 are 'upper' and 'lower'"
    match chars.getLast?, o.has 't' with
    | none, false => throw "when not truncating set1, string2 must be non-empty"
    | last, truncates =>
      let filled := if truncates then chars else chars ++ List.replicate (first.length - chars.length) (last.getD ' ')
      return ⟨nothing, (first.zip filled).reverse, if o.has 's' then contains chars else nothing⟩

/-- `tr`. -/
def trProgram : Tool :=
  fun c =>
    match readOptionsFrom
      [flag 'c' "complement", flag 'C' "", flag 'd' "delete", flag 's' "squeeze-repeats", flag 't' "truncate-set1"] true
      none c.args with
    | .error e => c.refuseWithHint e.message 1
    | .ok o =>
      let needsTwo := o.has 'd' = o.has 's'
      let most := if o.has 'd' && !o.has 's' then 1 else 2
      let hint (message note : String) : Action Nat := do
        c.complain message
        if note ≠ "" then .complain note
        .complain ("Try '" ++ c.name ++ " --help' for more information.")
        return 1
      match o.operands with
      | [] => hint "missing operand" ""
      | operands =>
        match operands, operands.drop most with
        | [one], _ =>
          if needsTwo then
            hint ("missing operand after " ++ quoted one)
              (if o.has 'd' then "Two strings must be given when both deleting and squeezing repeats."
               else "Two strings must be given when translating.")
          else go c o operands
        | _, extra :: _ =>
          hint ("extra operand " ++ quoted extra)
            (if most = 1 && operands.length = 2 then
              "Only one string may be given when deleting without squeezing repeats." else "")
        | _, [] => go c o operands
where
  /-- Exchanges the characters of the input. -/
  go (c : Call) (o : Options) (operands : List String) : Action Nat :=
    match operands.mapM parseSet with
    | .error e => c.refuse e.message 1
    | .ok sets =>
      match exchangeOf o sets with
      | .error message => c.refuse message 1
      | .ok e => do
        match ← inputFault? with
        | some fault => c.refuse ("read error: " ++ fault.text) 1
        | none =>
          discard (e.filter.overInput Filter.blockLimit none)
          return 0

end GateRunner
