/-!
# Regular expressions with the longest match

Regular expressions of which, among the matches that begin first, the longest counts, and within it the longest match of
each part from the left on. A part can refer back to what a group has matched.

`Node.ends` gives all the places at which a match from a place on can end, longest first, each once. So the work stays
within bounds whatever the expression is.
-/

namespace GateRunner.Posix

/-- A regular expression. -/
inductive Node
  | empty
  /-- One character that passes a test. -/
  | one (test : Char → Bool)
  | seq (first second : Node)
  | alt (first second : Node)
  /-- So many times, at most so many if there is a limit. -/
  | repeated (body : Node) (least : Nat) (most : Option Nat)
  | group (number : Nat) (body : Node)
  | back (number : Nat)
  | lineStart
  | lineEnd
  | textStart
  | textEnd
  | wordStart
  | wordEnd
  /-- A place between a character of a word and one that is not, or any other place. -/
  | boundary (isOne : Bool)

/-- What groups have matched: from where to where, the last first. -/
abbrev Captures := List (Nat × Nat × Nat)

/-- How a text is looked at. -/
structure Subject where
  text : Array Char
  /-- Whether lines begin and end within the text. -/
  multiline : Bool
  ignoresCase : Bool

namespace Subject

/-- Whether the character at a place belongs to a word. -/
def isWord (s : Subject) (place : Nat) : Bool := (s.text[place]?).any fun c => c.isAlphanum || c = '_'

/-- Whether the character before a place belongs to a word. -/
def isWordBefore (s : Subject) (place : Nat) : Bool := 0 < place && s.isWord (place - 1)

/-- Whether a part of the text stands at another place too. -/
def recurs (s : Subject) (start stop place : Nat) : Bool :=
  let key (c : Char) : Char := if s.ignoresCase then c.toLower else c
  (List.range (stop - start)).all fun i =>
    match s.text[start + i]?, s.text[place + i]? with
    | some a, some b => key a = key b
    | _, _ => false

end Subject

/-- A place reached, with what groups have matched on the way. -/
abbrev Reached := Nat × Captures

/-- Places each once, the first time it is reached, from the last one in the text on. -/
def tidy (all : List Reached) : List Reached :=
  let once := all.foldl (fun (seen : List Reached) r => if seen.any (·.1 = r.1) then seen else r :: seen) []
  once.reverse.mergeSort fun a b => b.1 ≤ a.1

/-- One round more from each place, without those that lead nowhere. -/
def rounds (step : Reached → List Reached) (from_ : List Reached) : List Reached := tidy (from_.flatMap step)

/-- All places that are reached in at most so many rounds. -/
def closure (step : Reached → List Reached) : Nat → List Reached → List Reached → List Reached
  | 0, seen, _ => seen
  | fuel + 1, seen, fresh =>
    let next := (rounds step fresh).filter fun r => !seen.any (·.1 = r.1)
    if next.isEmpty then seen else closure step fuel (seen ++ next) next

/-- So many rounds. -/
def times (step : Reached → List Reached) : Nat → List Reached → List Reached
  | 0, from_ => from_
  | n + 1, from_ => if from_.isEmpty then [] else times step n (rounds step from_)

namespace Node

/-- The places at which a match from a place on can end, from the last one on. -/
def ends (s : Subject) : Node → Reached → List Reached
  | .empty, r => [r]
  | .one test, (place, groups) =>
    match s.text[place]? with
    | some c => if test c then [(place + 1, groups)] else []
    | none => []
  | .seq first second, r => tidy ((first.ends s r).flatMap (second.ends s))
  | .alt first second, r => tidy (first.ends s r ++ second.ends s r)
  | .repeated body least most, r =>
    let reached := times (body.ends s) least [r]
    match most with
    | none => tidy (closure (body.ends s) (s.text.size + 1) reached reached)
    | some most => tidy (closure (body.ends s) (min (most - least) (s.text.size + 1)) reached reached)
  | .group number body, (place, groups) =>
    (body.ends s (place, groups)).map fun (stop, inner) => (stop, (number, place, stop) :: inner)
  | .back number, (place, groups) =>
    match groups.lookup number with
    | none => []
    | some (start, stop) => if s.recurs start stop place then [(place + (stop - start), groups)] else []
  | .lineStart, (place, groups) =>
    if place = 0 || (s.multiline && s.text[place - 1]? = some '\n') then [(place, groups)] else []
  | .lineEnd, (place, groups) =>
    if place = s.text.size || (s.multiline && s.text[place]? = some '\n') then [(place, groups)] else []
  | .textStart, (place, groups) => if place = 0 then [(place, groups)] else []
  | .textEnd, (place, groups) => if place = s.text.size then [(place, groups)] else []
  | .wordStart, (place, groups) => if s.isWord place && !s.isWordBefore place then [(place, groups)] else []
  | .wordEnd, (place, groups) => if s.isWordBefore place && !s.isWord place then [(place, groups)] else []
  | .boundary isOne, (place, groups) =>
    if (s.isWordBefore place != s.isWord place) = isOne then [(place, groups)] else []

/-- Whether the expression can only match where a text or a line begins. -/
def startsFixed : Node → Bool
  | .lineStart | .textStart => true
  | .seq first _ => first.startsFixed
  | .group _ body => body.startsFixed
  | _ => false

/-- The number of groups. -/
def groups : Node → Nat
  | .seq a b | .alt a b => max a.groups b.groups
  | .repeated body _ _ => body.groups
  | .group number body => max number body.groups
  | _ => 0

end Node

/-- A match: where it begins and ends, and what its groups have matched. -/
structure Match where
  start : Nat
  stop : Nat
  groups : Captures

/-- The first match that begins at one of some places and is good for something; of those that begin there the longest
one. -/
def searchFrom (node : Node) (s : Subject) (good : Nat → Nat → Bool) : Nat → Nat → Option Match
  | 0, _ => none
  | fuel + 1, place =>
    if s.text.size < place then none
    else
      match (node.ends s (place, [])).find? fun r => good place r.1 with
      | some (stop, groups) => some ⟨place, stop, groups⟩
      | none =>
        if node.startsFixed && !s.multiline then none else searchFrom node s good fuel (place + 1)

/-- The first match from a place on. -/
def search (node : Node) (s : Subject) (place : Nat) : Option Match :=
  searchFrom node s (fun _ _ => true) (s.text.size + 1) place

/-- The part of the text that a group has matched. -/
def Match.group (m : Match) (s : Subject) (number : Nat) : String :=
  let part (start stop : Nat) : String := String.ofList (s.text.extract start stop).toList
  if number = 0 then part m.start m.stop
  else
    match m.groups.lookup number with
    | some (start, stop) => part start stop
    | none => ""

end GateRunner.Posix
