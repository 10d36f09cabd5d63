import GateRunner.Pattern.Basic

/-!
# Patterns put together

How patterns are made of smaller ones: rows in rows and choices in choices are one row and one choice, characters in a
row are one literal, and a choice between single characters or sets is a set. A choice between rows that begin in the
same way is a row with a choice at its end. None of this changes what is covered; it settles how large a pattern is.
-/

namespace GateRunner.Pattern

mutual

/-- Whether two patterns are the same. -/
def same : Pattern → Pattern → Bool
  | .empty, .empty => true
  | .literal a, .literal b => a = b
  | .set a, .set b => a = b
  | .assertion a, .assertion b => a = b
  | .group m a, .group n b => m = n && same a b
  | .repeated least most short a, .repeated least' most' short' b =>
    least = least' && most = most' && short = short' && same a b
  | .row a, .row b => sameAll a b
  | .choice a, .choice b => sameAll a b
  | _, _ => false

/-- Whether two lists hold the same patterns. -/
def sameAll : List Pattern → List Pattern → Bool
  | [], [] => true
  | a :: as, b :: bs => same a b && sameAll as bs
  | _, _ => false

end

mutual

/-- How many characters a stretch has at least that the pattern covers; nothing if that is not known, as for a set
without members. -/
def shortest : Pattern → Option Nat
  | .empty => some 0
  | .literal chars => some chars.length
  | .set members => if members.isEmpty then none else some 1
  | .assertion _ => some 0
  | .group _ body => shortest body
  | .repeated least _ _ body => (shortest body).map (least * ·)
  | .row items => shortestOfAll items
  | .choice options => shortestOfAny options

/-- The least number of characters of patterns one after the other. -/
def shortestOfAll : List Pattern → Option Nat
  | [] => some 0
  | p :: rest => do return (← shortest p) + (← shortestOfAll rest)

/-- The least number of characters of one of several patterns. -/
def shortestOfAny : List Pattern → Option Nat
  | [] => none
  | [p] => shortest p
  | p :: rest => do return min (← shortest p) (← shortestOfAny rest)

end

mutual

/-- How many characters a stretch has at most that the pattern covers, if there is a limit. -/
def longest : Pattern → Option Nat
  | .empty => some 0
  | .literal chars => some chars.length
  | .set members => if members.isEmpty then none else some 1
  | .assertion _ => some 0
  | .group _ body => longest body
  | .repeated _ most _ body => do return (← most) * (← longest body)
  | .row items => longestOfAll items
  | .choice options => longestOfAny options

/-- The greatest number of characters of patterns one after the other. -/
def longestOfAll : List Pattern → Option Nat
  | [] => some 0
  | p :: rest => do return (← longest p) + (← longestOfAll rest)

/-- The greatest number of characters of one of several patterns. -/
def longestOfAny : List Pattern → Option Nat
  | [] => none
  | [p] => longest p
  | p :: rest => do return max (← longest p) (← longestOfAny rest)

end

/-- Whether a pattern covers empty stretches only. -/
def coversNothing (p : Pattern) : Bool := p.longest = some 0

/-- The pattern of a set, which is a literal if the set has one member. -/
def ofSet (members : CharSet) : Pattern :=
  match members with
  | [(low, high)] => if low = high then .literal [Char.ofNat low] else .set members
  | _ => .set members

/-- A pattern repeated. What covers empty stretches only need not be repeated more than once. -/
def times (least : Nat) (most : Option Nat) (short : Bool) (body : Pattern) : Pattern :=
  let least' := if body.coversNothing then min least 1 else least
  let most' := if body.coversNothing then some (min (most.getD 1) 1) else most
  if most' = some 0 then .empty
  else if least' = 1 && most' = some 1 then body
  else .repeated least' most' short body

/-- A pattern put before those of a row. -/
def before (p : Pattern) (row : List Pattern) : List Pattern :=
  match p, row with
  | .empty, row => row
  | .literal a, .literal b :: rest => .literal (a ++ b) :: rest
  | p, row => p :: row

/-- Patterns one after the other. -/
def inRow (items : List Pattern) : Pattern :=
  let flat := items.flatMap fun p =>
    match p with
    | .row inner => inner
    | p => [p]
  match flat.foldr before [] with
  | [] => .empty
  | [p] => p
  | items => .row items

/-- The options of a choice without those of a further choice in it. -/
def flatOptions (options : List Pattern) : List Pattern :=
  options.flatMap fun p =>
    match p with
    | .choice inner => inner
    | p => [p]

/-- The character of a literal with one. -/
def character? : Pattern → Option (Nat × Nat)
  | .literal [c] => some (c.toNat, c.toNat)
  | _ => none

/-- The members of a set. -/
def members? : Pattern → Option CharSet
  | .set members => some members
  | _ => none

/-- The items of a row. -/
def items? : Pattern → Option (List Pattern)
  | .row items => some items
  | _ => none

/-- The set that covers what the options cover, if each is a literal of one character, or if each is a set. -/
def union? (options : List Pattern) : Option CharSet :=
  (options.mapM character?).map CharSet.ofRanges
    <|> (options.mapM members?).map fun sets => CharSet.ofRanges (sets.flatMap id)

/-- A choice between options of which none is a choice, as a set if it is one. -/
def plainChoice (options : List Pattern) : Pattern :=
  match options with
  | [p] => p
  | _ =>
    match union? options with
    | some members => ofSet members
    | none => .choice options

/-- The patterns with which both rows begin. -/
def commonStart : List Pattern → List Pattern → List Pattern
  | a :: as, b :: bs => if same a b then a :: commonStart as bs else []
  | _, _ => []

/-- One of several patterns. -/
def oneOf (options : List Pattern) : Pattern :=
  let options := flatOptions options
  match plainChoice options, options.mapM items? with
  | .choice _, some (first :: others) =>
    let start := others.foldl commonStart first
    if start.isEmpty then .choice options
    else
      let rest := (first :: others).map fun items => inRow (items.drop start.length)
      inRow (start ++ [plainChoice (flatOptions rest)])
  | p, _ => p

end GateRunner.Pattern
