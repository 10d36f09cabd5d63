import GateRunner.Pattern.Classes
import GateRunner.Pattern.Set

/-!
# Patterns and what they match

A pattern is read as the set of stretches of a text that it covers. `Pattern.ends` computes where such stretches end,
given all the places where they may begin: a step from a set of positions to a set of positions, held as lists in order
without repetition. A text matches if a stretch begins anywhere in it, so which of several stretches a search would
prefer never matters.
-/

namespace GateRunner.Pattern

/-- What a place between two characters can be. Where a carriage return counts as the end of a line, one with a newline
after it is a single end together with that. -/
inductive Assertion
  | textStart
  | textEnd
  | lineStart (carriage : Bool)
  | lineEnd (carriage : Bool)
  | boundary (unicode : Bool)
  | noBoundary (unicode : Bool)
  | wordStart (unicode : Bool)
  | wordEnd (unicode : Bool)
  | noWordBefore (unicode : Bool)
  | noWordAfter (unicode : Bool)
deriving DecidableEq, Repr

end GateRunner.Pattern

namespace GateRunner

/-- A regular expression. Groups have a number, and a repetition says whether it prefers to be short; neither matters
for whether a text matches. -/
inductive Pattern
  | empty
  | literal (chars : List Char)
  | set (members : Pattern.CharSet)
  | assertion (a : Pattern.Assertion)
  | group (number : Nat) (body : Pattern)
  | repeated (least : Nat) (most : Option Nat) (short : Bool) (body : Pattern)
  | row (items : List Pattern)
  | choice (options : List Pattern)
deriving Inhabited

namespace Pattern

/-- The characters of words within ASCII. -/
def asciiWord : CharSet := [(0x30, 0x39), (0x41, 0x5A), (0x5F, 0x5F), (0x61, 0x7A)]

/-- Whether the character at a place, if there is one, belongs to a word. -/
def isWordAt (text : Array Char) (unicode : Bool) (i : Nat) : Bool :=
  match text[i]? with
  | some c => CharSet.has (if unicode then wordCharacters else asciiWord) c.toNat
  | none => false

/-- Whether the character before a place, if there is one, belongs to a word. -/
def isWordBefore (text : Array Char) (unicode : Bool) (i : Nat) : Bool := 0 < i && isWordAt text unicode (i - 1)

/-- Whether a place of a text is what an assertion says. -/
def Assertion.holds (text : Array Char) (i : Nat) : Assertion → Bool
  | .textStart => i = 0
  | .textEnd => i = text.size
  | .lineStart false => i = 0 || text[i - 1]? = some '\n'
  | .lineEnd false => i = text.size || text[i]? = some '\n'
  | .lineStart true =>
    i = 0 || text[i - 1]? = some '\n' || (text[i - 1]? = some '\r' && text[i]? ≠ some '\n')
  | .lineEnd true =>
    i = text.size || text[i]? = some '\r' || (text[i]? = some '\n' && (i = 0 || text[i - 1]? ≠ some '\r'))
  | .boundary u => isWordBefore text u i != isWordAt text u i
  | .noBoundary u => isWordBefore text u i == isWordAt text u i
  | .wordStart u => !isWordBefore text u i && isWordAt text u i
  | .wordEnd u => isWordBefore text u i && !isWordAt text u i
  | .noWordBefore u => !isWordBefore text u i
  | .noWordAfter u => !isWordAt text u i

/-- Two lists in order made one, without repetition. -/
def mergeSorted : List Nat → List Nat → List Nat
  | [], ys => ys
  | xs, [] => xs
  | x :: xs, y :: ys =>
    if x < y then x :: mergeSorted xs (y :: ys)
    else if y < x then y :: mergeSorted (x :: xs) ys
    else x :: mergeSorted xs ys

/-- The members of a list in order that are not in another one. -/
def removeSorted : List Nat → List Nat → List Nat
  | [], _ => []
  | xs, [] => xs
  | x :: xs, y :: ys =>
    if x < y then x :: removeSorted xs (y :: ys)
    else if y < x then removeSorted (x :: xs) ys
    else removeSorted xs ys

/-- A step taken a number of times, or until it changes nothing more. -/
def takeTimes (step : List Nat → List Nat) : Nat → List Nat → List Nat
  | 0, from_ => from_
  | n + 1, from_ =>
    let next := step from_
    if next = from_ then next else takeTimes step n next

/-- All positions that up to a number of steps lead to, given those that have been reached and the newest of them. -/
def closure (step : List Nat → List Nat) : Nat → (reached newest : List Nat) → List Nat
  | 0, reached, _ => reached
  | n + 1, reached, newest =>
    let new := removeSorted (step newest) reached
    if new.isEmpty then reached else closure step n (mergeSorted reached new) new

/-- Whether characters stand in a text from a place on. -/
def standsAt (text : Array Char) : List Char → Nat → Bool
  | [], _ => true
  | c :: rest, i => text[i]? = some c && standsAt text rest (i + 1)

mutual

/-- The positions where a stretch ends that the pattern covers and that begins at one of the positions given. -/
def ends (text : Array Char) : Pattern → List Nat → List Nat
  | .empty, starts => starts
  | .literal chars, starts => (starts.filter (standsAt text chars)).map (· + chars.length)
  | .set members, starts =>
    starts.filterMap fun i =>
      match text[i]? with
      | some c => if CharSet.has members c.toNat then some (i + 1) else none
      | none => none
  | .assertion a, starts => starts.filter (fun i => a.holds text i)
  | .group _ body, starts => ends text body starts
  | .repeated least most _ body, starts =>
    let begun := takeTimes (ends text body) least starts
    let more := match most with
      | some most => most - least
      | none => text.size + 1
    closure (ends text body) more begun begun
  | .row items, starts => endsOfAll text items starts
  | .choice options, starts => endsOfAny text options starts

/-- The positions where stretches end that the patterns of a list cover one after the other. -/
def endsOfAll (text : Array Char) : List Pattern → List Nat → List Nat
  | [], starts => starts
  | p :: rest, starts => endsOfAll text rest (ends text p starts)

/-- The positions where stretches end that one of the patterns of a list covers. -/
def endsOfAny (text : Array Char) : List Pattern → List Nat → List Nat
  | [], _ => []
  | p :: rest, starts => mergeSorted (ends text p starts) (endsOfAny text rest starts)

end

/-- Whether a text has a stretch that the pattern covers. -/
def matchesText (p : Pattern) (text : String) : Bool :=
  let chars := text.toList.toArray
  !(p.ends chars (List.range (chars.size + 1))).isEmpty

end Pattern

end GateRunner
