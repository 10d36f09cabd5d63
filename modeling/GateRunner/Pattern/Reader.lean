import GateRunner.Pattern.Class
import GateRunner.Pattern.Extent

/-!
# Reading patterns

`Pattern.parse?` reads a regular expression and refuses a text that is none. Known are single characters, the point,
classes, escapes, anchors and word boundaries, groups with or without name, alternation, repetition in all its forms,
and the flags, which are worked into the pattern as it is read. Not part of the language are references back to a group
and looking around.

A pattern is refused as well if too many things are in each other in it, or if it is too large.
-/

namespace GateRunner.Pattern

/-- A part of a pattern that has been read, with its height: how many groups, repetitions, rows, choices and classes are
in each other in it. -/
structure Piece where
  pattern : Pattern
  height : Nat

namespace Piece

/-- The greatest of some heights, one more if there are several. -/
def heightOf (heights : List Nat) : Nat :=
  match heights with
  | [height] => height
  | [] => 0
  | _ => heights.foldl max 0 + 1

/-- The pieces of a list in reverse order, one after the other. Flags are pieces without a pattern. -/
def row (reversed : List (Option Piece)) : Piece :=
  let items := reversed.reverse
  ⟨inRow (items.filterMap fun p => p.map (·.pattern)), heightOf (items.map fun p => (p.map (·.height)).getD 0)⟩

/-- The alternatives of a list in reverse order. -/
def choice (reversed : List Piece) : Piece :=
  let options := reversed.reverse
  ⟨oneOf (options.map (·.pattern)), heightOf (options.map (·.height))⟩

/-- A piece repeated. -/
def repeated (least : Nat) (most : Option Nat) (short : Bool) (p : Piece) : Piece :=
  ⟨times least most short p.pattern, p.height + 1⟩

/-- A piece in brackets, as a group with a number or not. -/
def group (number : Option Nat) (p : Piece) : Piece :=
  ⟨match number with
    | some number => .group number p.pattern
    | none => p.pattern, p.height + 1⟩

end Piece

/-- The pattern of a class. Where the flag for all scripts is cleared a class stands for bytes, and one with bytes
past ASCII could match what is no text, so it is refused. -/
def ofClass? (f : Flags) (s : CharSet) : Option Pattern := if f.unicode || s.isAscii then some (ofSet s) else none

/-- The pattern of a primitive. -/
def ofPrimitive? (f : Flags) : Primitive → Option Pattern
  | .literal c => some (ofSet (underCase f (CharSet.single c)))
  | .cls s => ofClass? f s
  | .place a => some (.assertion a)

/-- The characters that a point stands for. -/
def pointSet (f : Flags) : CharSet :=
  if f.dotNewline then CharSet.all
  else CharSet.complement (CharSet.ofPoints (if f.carriage then [0x0A, 0x0D] else [0x0A]))

/-! ## Groups and flags -/

/-- Flags as they are written, up to the character that ends them. No letter may stand twice, nor the sign of
clearing, which may not stand last. -/
def flagItems? (f : Flags) (seen : List Char) (on : Bool) : List Char → Option (Flags × Bool × List Char)
  | [] => none
  | c :: rest =>
    if c = ':' || c = ')' then if seen.head? = some '-' then none else some (f, seen.isEmpty, c :: rest)
    else if c ∈ seen then none
    else if c = '-' then flagItems? f (c :: seen) false rest
    else
      match f.put c on with
      | some f => flagItems? f (c :: seen) on rest
      | none => none

/-- Whether a character may stand in the name of a group. -/
def inGroupName (first : Bool) (c : Char) : Bool :=
  c = '_' || (!first && (c.isDigit || c = '.' || c = '[' || c = ']'))
    || (CharSet.has wordCharacters c.toNat && (!first || !CharSet.has decimalDigits c.toNat) && c ≠ '_')

/-- The name of a group, up to the bracket after it. -/
def groupName? (text : List Char) : Option (List Char × List Char) :=
  match text.takeWhile (· ≠ '>'), text.dropWhile (· ≠ '>') with
  | first :: more, _ :: rest =>
    if inGroupName true first && more.all (inGroupName false) then some (first :: more, rest) else none
  | _, _ => none

/-- How many groups there are so far, and the names among them. -/
structure Groups where
  count : Nat
  names : List (List Char)

/-- The groups with one more, which may have a name; no two groups have the same. -/
def Groups.push? (groups : Groups) (name : Option (List Char)) : Option Groups :=
  match name with
  | none => some { groups with count := groups.count + 1 }
  | some name => if name ∈ groups.names then none else some ⟨groups.count + 1, name :: groups.names⟩

/-- What an opening bracket begins. -/
inductive Opening
  | group (name : Option (List Char))
  | plain (flags : Flags)
  | flags (flags : Flags)

/-- What an opening bracket begins, by the text after it. -/
def opening? (f : Flags) (text : List Char) : Option (Opening × List Char) :=
  let named (rest : List Char) : Option (Opening × List Char) :=
    (groupName? rest).map fun (name, rest) => (.group (some name), rest)
  match skip f text with
  | '?' :: 'P' :: '<' :: rest => named rest
  | '?' :: '<' :: '=' :: _ | '?' :: '<' :: '!' :: _ => none
  | '?' :: '<' :: rest => named rest
  | '?' :: rest =>
    match flagItems? f [] true rest with
    | some (f, bare, ')' :: rest) => if bare then none else some (.flags f, rest)
    | some (f, _, ':' :: rest) => some (.plain f, rest)
    | _ => none
  | rest => some (.group none, rest)

/-! ## Repetition -/

/-- The digits at the front of a text, and the text after them. -/
def digitsOf (f : Flags) : Nat → List Char → List Char × List Char
  | 0, text => ([], text)
  | fuel + 1, text =>
    match text with
    | c :: rest =>
      if c.isDigit then
        let (digits, rest) := digitsOf f fuel (skip f rest)
        (c :: digits, rest)
      else ([], text)
    | [] => ([], [])

/-- A number in a repetition, with blanks around it. -/
def count? (f : Flags) (text : List Char) : Option (Option Nat × List Char) :=
  let isBlank (c : Char) : Bool := CharSet.has whiteSpace c.toNat
  let text := text.dropWhile isBlank
  let (digits, rest) := digitsOf f text.length text
  let rest := skip f (rest.dropWhile isBlank)
  if digits.isEmpty then some (none, rest)
  else
    let value := digitsValue 10 digits
    if value < twoTo 32 then some (some value, rest) else none

/-- The bounds of a repetition after its opening brace. -/
def bounds? (f : Flags) (text : List Char) : Option (Nat × Option Nat × List Char) :=
  match count? f (skip f text) with
  | some (some least, '\x7d' :: rest) => some (least, some least, rest)
  | some (some least, ',' :: rest) =>
    match skip f rest with
    | '\x7d' :: rest => some (least, none, rest)
    | rest =>
      match count? f rest with
      | some (some most, '\x7d' :: rest) => if least ≤ most then some (least, some most, rest) else none
      | _ => none
  | _ => none

/-- Whether a sign follows that a repetition is to be short, and the text after it. -/
def shortSign (text : List Char) : Bool × List Char :=
  match text with
  | '?' :: rest => (true, rest)
  | _ => (false, text)

/-! ## Patterns -/

/-- How a reading step ends: the piece, the groups so far, and the text after it. -/
abbrev Parsed := Option (Piece × Groups × List Char)

/-- Reads a pattern up to the end of its group. `past` is the row so far in reverse order, with nothing for flags,
which cannot be repeated; `above` are the alternatives before it. -/
def pieces? : Nat → Flags → Groups → List (Option Piece) → List Piece → List Char → Parsed
  | 0, _, _, _, _, _ => none
  | fuel + 1, f, groups, past, above, text =>
    let push (read : Option Pattern) (height : Nat) (rest : List Char) : Parsed :=
      match read with
      | some p => pieces? fuel f groups (some ⟨p, height⟩ :: past) above rest
      | none => none
    let repeatLast (least : Nat) (most : Option Nat) (sign : Bool × List Char) : Parsed :=
      match past with
      | some p :: past =>
        pieces? fuel f groups (some (p.repeated least most (sign.1 != f.shortFirst)) :: past) above sign.2
      | _ => none
    let group (inner : Flags) (number : Option Nat) (groups : Groups) (rest : List Char) : Parsed :=
      match pieces? fuel inner groups [] [] rest with
      | some (p, groups, ')' :: rest) => pieces? fuel f groups (some (p.group number) :: past) above rest
      | _ => none
    match skip f text with
    | [] => some (.choice (.row past :: above), groups, [])
    | ')' :: rest => some (.choice (.row past :: above), groups, ')' :: rest)
    | '|' :: rest => pieces? fuel f groups [] (.row past :: above) rest
    | '(' :: rest =>
      match opening? f rest with
      | some (.flags f, rest) => pieces? fuel f groups (none :: past) above rest
      | some (.plain inner, rest) => group inner none groups rest
      | some (.group name, rest) =>
        match groups.push? name with
        | some groups => group f (some groups.count) groups rest
        | none => none
      | none => none
    | '[' :: rest =>
      match class? f fuel rest with
      | some (s, rest) => push (ofClass? f s.members) s.height rest
      | none => none
    | '?' :: rest => repeatLast 0 (some 1) (shortSign rest)
    | '*' :: rest => repeatLast 0 none (shortSign rest)
    | '+' :: rest => repeatLast 1 none (shortSign rest)
    | '\x7b' :: rest =>
      match bounds? f rest with
      | some (least, most, rest) => repeatLast least most (shortSign (skip f rest))
      | none => none
    | '\\' :: rest =>
      match escape? f rest with
      | some (p, rest) => push (ofPrimitive? f p) 0 rest
      | none => none
    | '.' :: rest => push (ofClass? f (pointSet f)) 0 rest
    | '^' :: rest => push (some (.assertion (if f.multiLine then .lineStart f.carriage else .textStart))) 0 rest
    | '$' :: rest => push (some (.assertion (if f.multiLine then .lineEnd f.carriage else .textEnd))) 0 rest
    | c :: rest => push (ofPrimitive? f (.literal c)) 0 rest

/-- How many things can be in each other in a pattern. -/
def heightLimit : Nat := 250

/-- The pattern a text stands for. -/
def parse? (text : String) : Option Pattern :=
  let chars := text.toList
  match pieces? (2 * chars.length + 2) .initial ⟨0, []⟩ [] [] chars with
  | some (p, _, []) => if p.height ≤ heightLimit && p.pattern.isSmall then some p.pattern else none
  | _ => none

end GateRunner.Pattern
