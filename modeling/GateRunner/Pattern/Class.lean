import GateRunner.Pattern.Escape

/-!
# Classes of patterns

A class in brackets holds characters, ranges, escapes, named classes and further classes, and joins such parts by set
operations. With its set goes its height: how many classes and operations are in each other in it.
-/

namespace GateRunner.Pattern

/-- The classes of ASCII that are named within brackets. -/
def asciiClass? (name : String) : Option CharSet :=
  match name with
  | "alnum" => some [(0x30, 0x39), (0x41, 0x5A), (0x61, 0x7A)]
  | "alpha" => some [(0x41, 0x5A), (0x61, 0x7A)]
  | "ascii" => some [(0, 0x7F)]
  | "blank" => some [(0x09, 0x09), (0x20, 0x20)]
  | "cntrl" => some [(0, 0x1F), (0x7F, 0x7F)]
  | "digit" => some [(0x30, 0x39)]
  | "graph" => some [(0x21, 0x7E)]
  | "lower" => some [(0x61, 0x7A)]
  | "print" => some [(0x20, 0x7E)]
  | "punct" => some [(0x21, 0x2F), (0x3A, 0x40), (0x5B, 0x60), (0x7B, 0x7E)]
  | "space" => some [(0x09, 0x0D), (0x20, 0x20)]
  | "upper" => some [(0x41, 0x5A)]
  | "word" => some asciiWord
  | "xdigit" => some [(0x30, 0x39), (0x41, 0x46), (0x61, 0x66)]
  | _ => none

/-- A named class, after its first bracket: `:name:]`, with `^` before the name for the complement. -/
def namedClass? (f : Flags) (text : List Char) : Option (CharSet × List Char) :=
  match text with
  | ':' :: rest =>
    let (negated, rest) := match rest with
      | '^' :: rest => (true, rest)
      | _ => (false, rest)
    match rest.dropWhile (· ≠ ':') with
    | ':' :: ']' :: after =>
      (asciiClass? (String.ofList (rest.takeWhile (· ≠ ':')))).map
        (fun s => (if negated then CharSet.complement (underCase f s) else s, after))
    | _ => none
  | _ => none

/-- One item of a class: an escape, or a character that stands for itself. Where the flag for all scripts is cleared,
only characters of ASCII can stand in a class. -/
def classItem? (f : Flags) (text : List Char) : Option (Primitive × List Char) :=
  let read := match text with
    | [] => none
    | '\\' :: rest => escape? f rest
    | c :: rest => some (.literal c, rest)
  match read with
  | some (.literal c, rest) => if f.unicode || c.toNat < 0x80 then some (.literal c, rest) else none
  | read => read

/-- An item or a range of a class. -/
def classRange? (f : Flags) (text : List Char) : Option (CharSet × List Char) :=
  match classItem? f text with
  | none => none
  | some (first, rest) =>
    let single : Option (CharSet × List Char) := match first with
      | .literal c => some (CharSet.single c, rest)
      | .cls s => some (s, rest)
      | .place _ => none
    match skip f rest with
    | [] => none
    | '-' :: after =>
      match skip f after with
      | [] => none
      | ']' :: _ | '-' :: _ => single
      | last =>
        match first, classItem? f last with
        | .literal low, some (.literal high, rest) =>
          if low ≤ high then some ([(low.toNat, high.toNat)], rest) else none
        | _, _ => none
    | _ => single

/-- What a class holds, with its height. -/
structure ClassSet where
  members : CharSet
  height : Nat

/-- The items of a class that stand beside each other: their set, their number, and the greatest of their heights. -/
structure ClassItems where
  members : CharSet
  count : Nat
  height : Nat

/-- Items with one more among them. -/
def ClassItems.push (items : ClassItems) (members : CharSet) (height : Nat) : ClassItems :=
  ⟨CharSet.union items.members members, items.count + 1, max items.height height⟩

/-- The items taken together. -/
def ClassItems.toSet (f : Flags) (items : ClassItems) : ClassSet :=
  ⟨underCase f items.members, if items.count < 2 then items.height else items.height + 1⟩

/-- The set operations between the parts of a class. -/
inductive SetOp
  | inter
  | diff
  | symDiff

/-- What an operation makes of two sets. -/
def SetOp.apply : SetOp → CharSet → CharSet → CharSet
  | .inter => CharSet.inter
  | .diff => CharSet.diff
  | .symDiff => CharSet.symDiff

/-- A part combined with what came before it. -/
def combine (before : Option (ClassSet × SetOp)) (part : ClassSet) : ClassSet :=
  match before with
  | none => part
  | some (s, op) => ⟨op.apply s.members part.members, max s.height part.height + 1⟩

/-- The hyphens that may stand first in a class, and a closing bracket that stands there. -/
def classOpening (f : Flags) : Bool → List Char → List Nat × List Char
  | _, '-' :: rest =>
    let (points, rest) := classOpening f false rest
    (0x2D :: points, rest)
  | true, ']' :: rest => ([0x5D], skip f rest)
  | _, text => ([], skip f text)

mutual

/-- A class after its opening bracket. -/
def class? (f : Flags) : Nat → List Char → Option (ClassSet × List Char)
  | 0, _ => none
  | fuel + 1, text =>
    let (negated, text) := match skip f text with
      | '^' :: rest => (true, skip f rest)
      | text => (false, text)
    let (points, text) := classOpening f true text
    match classParts? f fuel none ⟨CharSet.ofPoints points, points.length, 0⟩ text with
    | some (s, rest) => some (⟨if negated then CharSet.complement s.members else s.members, s.height + 1⟩, rest)
    | none => none

/-- The rest of a class, read onto the part so far and what is before its operation. -/
def classParts? (f : Flags) :
    Nat → Option (ClassSet × SetOp) → ClassItems → List Char → Option (ClassSet × List Char)
  | 0, _, _, _ => none
  | fuel + 1, before, part, text =>
    let next (op : SetOp) (rest : List Char) : Option (ClassSet × List Char) :=
      classParts? f fuel (some (combine before (part.toSet f), op)) ⟨[], 0, 0⟩ rest
    match skip f text with
    | [] => none
    | ']' :: rest => some (combine before (part.toSet f), rest)
    | '[' :: rest =>
      match namedClass? f rest with
      | some (s, rest) => classParts? f fuel before (part.push s 0) rest
      | none =>
        match class? f fuel rest with
        | some (s, rest) => classParts? f fuel before (part.push s.members s.height) rest
        | none => none
    | '&' :: '&' :: rest => next .inter rest
    | '-' :: '-' :: rest => next .diff rest
    | '~' :: '~' :: rest => next .symDiff rest
    | text =>
      match classRange? f text with
      | some (s, rest) => classParts? f fuel before (part.push s 0) rest
      | none => none

end

end GateRunner.Pattern
