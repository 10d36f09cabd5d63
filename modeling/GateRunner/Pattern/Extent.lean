import GateRunner.Pattern.ByteRanges
import GateRunner.Pattern.Compose

/-!
# How large a pattern is

A pattern counts as large as the two machines are that look for it byte by byte, one forwards and one backwards from the
end of a text. A machine has a state for each byte of a literal, for each place where it can go on in several ways, and
for the two ends of each group when it goes forwards; what is repeated a number of times is there as often. Each machine
has a limit, and `Pattern.isSmall` says whether both keep to it.

A set beyond ASCII has a state for each way to go on within a character. Forwards, states that go on alike are one.
Backwards, the states for the same first bytes are one as long as a table with a limited number of places remembers
them.
-/

namespace GateRunner.Pattern

/-- Which way a machine goes through a text. -/
inductive Direction
  | forwards
  | backwards
deriving DecidableEq

/-- The states of a machine so far, and the bytes that the lists of those take which can go on in several ways. -/
structure Tally where
  states : Nat
  listBytes : Nat

namespace Tally

/-- A tally with some more states, whose lists take some bytes. -/
def add (t : Tally) (states listBytes : Nat) : Tally := ⟨t.states + states, t.listBytes + listBytes⟩

/-- The bytes of all states. -/
def size (t : Tally) : Nat := 32 * t.states + t.listBytes

/-- Whether a machine is too large. -/
def isOver (t : Tally) : Bool := 10 * twoTo 20 < t.size

/-- A step taken a number of times, or until the machine is too large. -/
def addTimes (step : Tally → Tally) : Nat → Tally → Tally
  | 0, t => t
  | n + 1, t => if t.isOver then t else addTimes step n (step t)

end Tally

/-! ## Sets -/

/-- A state within a character: the ranges of bytes with which it goes on, each with the state after it. -/
abbrev ByteNode := List ((Nat × Nat) × Nat)

/-- The state that goes on with some rows of bytes, added to the states there are unless it is one of them. States are
numbered from the last of the list on, and zero is the end of the character. -/
def shareNodes : Nat → List ByteRow → List ByteNode → Nat × List ByteNode
  | 0, _, nodes => (0, nodes)
  | depth + 1, rows, nodes =>
    let (node, nodes) := (rows.splitBy fun a b => a.head? = b.head?).foldl (fun (node, nodes) alike =>
      match alike with
      | (range :: rest) :: _ =>
        let (next, nodes) := if rest.isEmpty then (0, nodes) else shareNodes depth (alike.map (·.drop 1)) nodes
        (node ++ [(range, next)], nodes)
      | _ => (node, nodes)) ([], nodes)
    match nodes.findIdx? (· = node) with
    | some i => (nodes.length - i, nodes)
    | none => (nodes.length + 1, node :: nodes)

/-- The machine with the states of a set added, going forwards. -/
def addRowsForwards (rows : List ByteRow) (t : Tally) : Tally :=
  (shareNodes 4 rows []).2.foldl (fun t node => t.add 1 (8 * node.length)) (t.add 1 0)

/-- The number of places of the table that remembers states. -/
def rememberedPlaces : Nat := 1000

/-- The place of a state in the table that remembers states: a hash of the state it leads to and of its range. -/
def rememberedPlace (to_ low high : Nat) : Nat :=
  let mix (h : UInt64) (n : Nat) : UInt64 := (h ^^^ n.toUInt64) * 1099511628211
  (mix (mix (mix 14695981039346656037 to_) low) high).toNat % rememberedPlaces

/-- The states added so far for the rows of a set, and those that are remembered. -/
structure RowStates where
  added : Nat
  remembered : Array (Option ((Nat × Nat × Nat) × Nat))

/-- The state with a range that leads to a given one, added unless it is remembered. The states added are numbered from
`start` on. -/
def RowStates.step (start : Nat) (states : RowStates) (to_ : Nat) (range : Nat × Nat) : Nat × RowStates :=
  let place := rememberedPlace to_ range.1 range.2
  let key := (to_, range.1, range.2)
  match (states.remembered[place]?).join with
  | some (known, state) =>
    if known = key then (state, states)
    else (start + states.added, ⟨states.added + 1, states.remembered.set! place (some (key, start + states.added))⟩)
  | none =>
    (start + states.added, ⟨states.added + 1, states.remembered.set! place (some (key, start + states.added))⟩)

/-- The machine with the states of a set added, going backwards: one where the set begins, with a way on for each row,
one where it ends, and those between them. -/
def addRowsBackwards (rows : List ByteRow) (t : Tally) : Tally :=
  let states := rows.foldl (fun (states : RowStates) row =>
    (row.foldl (fun (to_, states) range => RowStates.step (t.states + 2) states to_ range) (t.states + 1, states)).2)
    ⟨0, Array.replicate rememberedPlaces none⟩
  t.add (2 + states.added) (4 * rows.length)

/-- The machine with the states of a set added. -/
def addSet (d : Direction) (members : CharSet) (t : Tally) : Tally :=
  if members.isAscii then t.add 2 (8 * members.length)
  else
    match d with
    | .forwards => addRowsForwards members.byteRows t
    | .backwards => addRowsBackwards members.byteRows t

/-! ## Choices between literals -/

/-- The bytes of a literal, in the order in which a machine reads them. -/
def word? (d : Direction) : Pattern → Option (List UInt8)
  | .literal chars =>
    let bytes := (String.ofList chars).toUTF8.toList
    some (if d = .forwards then bytes else bytes.reverse)
  | _ => none

/-- The machine with the states of a choice between words added, for which words are one as far as they begin alike. A
state has a list for the words between two that end at it. -/
def addWords : Nat → List (List UInt8) → Tally → Tally
  | 0, _, t => t
  | depth + 1, words, t =>
    let later := words.dropWhile List.isEmpty
    let closed := min 1 (words.length - later.length) + (later.filter List.isEmpty).length
    let runs := (later.splitBy fun a b => !a.isEmpty && !b.isEmpty).filter fun run => !run.any List.isEmpty
    let t := runs.foldl (fun t run =>
      let firsts := (run.filterMap List.head?).eraseDups
      let t := firsts.foldl (fun t byte =>
        let rest := (run.filter fun w => w.head? = some byte).map (·.drop 1)
        if rest.all List.isEmpty then t else addWords depth rest t) t
      t.add 1 (if firsts.length = 1 then 0 else 8 * firsts.length)) t
    let ways := runs.length + closed
    if ways = 1 then t else t.add 1 (4 * ways)

/-! ## Patterns -/

mutual

/-- The machine with the states of a pattern added. -/
def addStates (d : Direction) : Pattern → Tally → Tally
  | .empty, t => t.add 1 0
  | .literal chars, t => t.add (String.ofList chars).utf8ByteSize 0
  | .set members, t => addSet d members t
  | .assertion _, t => t.add 1 0
  | .group _ body, t => if d = .forwards then addStates d body (t.add 2 0) else addStates d body t
  | .repeated least most _ body, t =>
    let one := addStates d body
    match most with
    | none =>
      if 0 < least then (Tally.addTimes one least t).add 1 8
      else if body.shortest.any (0 < ·) then one (t.add 1 8)
      else (one t).add 3 16
    | some most =>
      if least = 0 && most = 1 then (one (t.add 1 8)).add 1 0
      else
        let t := if least = 0 then t.add 1 0 else Tally.addTimes one least t
        if least = most then t else Tally.addTimes (fun t => one (t.add 1 8)) (most - least) (t.add 1 0)
  | .row items, t => addStatesOfAll d items t
  | .choice options, t =>
    match options.mapM (word? d) with
    | some words => addWords (words.foldl (fun most w => max most w.length) 0 + 1) words (t.add 1 0)
    | none => addStatesOfAny d options 0 t

/-- The machine with the states of patterns added that stand one after the other. -/
def addStatesOfAll (d : Direction) : List Pattern → Tally → Tally
  | [], t => t
  | p :: rest, t =>
    match d with
    | .forwards => addStatesOfAll d rest (addStates d p t)
    | .backwards => addStates d p (addStatesOfAll d rest t)

/-- The machine with the states of the options of a choice added, given how many there have been. The states where the
choice begins and ends come after the second option. -/
def addStatesOfAny (d : Direction) : List Pattern → Nat → Tally → Tally
  | [], _, t => t
  | p :: rest, count, t =>
    let t := addStates d p t
    addStatesOfAny d rest (count + 1) (if count = 1 then t.add 2 4 else t.add 0 4)

end

mutual

/-- Whether a pattern covers stretches only from the start of the text on or, going backwards, up to its end. -/
def isFixed (d : Direction) : Pattern → Bool
  | .assertion a => a = (if d = .forwards then .textStart else .textEnd)
  | .group _ body => isFixed d body
  | .repeated least _ _ body => 0 < least && isFixed d body
  | .row items => isFixedOfAll d items
  | .choice options => isFixedOfAny d options
  | _ => false

/-- Whether patterns one after the other are fixed: one of them is, and those before it in the direction cover empty
stretches only. -/
def isFixedOfAll (d : Direction) : List Pattern → Bool
  | [] => false
  | p :: rest =>
    match d with
    | .forwards => isFixed d p || (p.coversNothing && isFixedOfAll d rest)
    | .backwards => isFixedOfAll d rest || (rest.all coversNothing && isFixed d p)

/-- Whether all options are fixed. -/
def isFixedOfAny (d : Direction) : List Pattern → Bool
  | [] => true
  | p :: rest => isFixed d p && isFixedOfAny d rest

end

/-- The machine that looks for a pattern: what it does before the pattern begins, the pattern as a group, and a state
for having found it. -/
def machine (d : Direction) (p : Pattern) : Tally :=
  (addStates d (.group 0 p) (if p.isFixed d then ⟨1, 0⟩ else ⟨3, 16⟩)).add 1 0

/-- Whether neither of the machines that look for a pattern is too large. -/
def isSmall (p : Pattern) : Bool := !(p.machine .backwards).isOver && !(p.machine .forwards).isOver

end GateRunner.Pattern
