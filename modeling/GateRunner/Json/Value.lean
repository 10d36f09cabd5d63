import GateRunner.Json.Number

/-!
# JSON values

A value as it was written: the fields of an object in their order, with repetitions. A text can hold well-formed pieces
that stand for no value, such as half of a surrogate pair or a number past every double; such a piece is
`Json.unreadable`, which does no harm where nobody looks at it.

`Json.canonical?` gives the value as a document: nothing in it is unreadable, it is nested no deeper than the limit,
and each object has its fields in order of their names, each once, the last one written winning.
-/

namespace GateRunner

/-- A JSON value as written. -/
inductive Json
  | null
  | bool (value : Bool)
  | num (value : Json.Number)
  | str (value : String)
  | arr (items : List Json)
  | obj (fields : List (String × Json))
  | unreadable
deriving Inhabited

namespace Json

/-- How many arrays and objects may stand inside each other. -/
def nestingLimit : Nat := 127

/-- The field of that name put into a list of fields in order of their names, in place of one that is there. -/
def putField (name : String) (value : Json) : List (String × Json) → List (String × Json)
  | [] => [(name, value)]
  | (other, held) :: rest =>
    if name = other then (name, value) :: rest
    else if name < other then (name, value) :: (other, held) :: rest
    else (other, held) :: putField name value rest

mutual

/-- The value as a document with at most `room` levels of nesting. -/
def canonical? (room : Nat) : Json → Option Json
  | .unreadable => none
  | .arr items => if room = 0 then none else (canonicalItems? (room - 1) items).map .arr
  | .obj fields => if room = 0 then none else (canonicalFields? (room - 1) [] fields).map .obj
  | value => some value

/-- The values of an array as documents. -/
def canonicalItems? (room : Nat) : List Json → Option (List Json)
  | [] => some []
  | item :: rest =>
    match canonical? room item with
    | none => none
    | some value => (canonicalItems? room rest).map (value :: ·)

/-- The fields of an object in order of their names, put one after the other into those before them. -/
def canonicalFields? (room : Nat) (seen : List (String × Json)) :
    List (String × Json) → Option (List (String × Json))
  | [] => some seen
  | (name, value) :: rest =>
    match canonical? room value with
    | none => none
    | some value => canonicalFields? room (putField name value seen) rest

end

/-- The value of a field in a list of fields. -/
def fieldIn? (fields : List (String × Json)) (name : String) : Option Json := fields.lookup name

/-- The value of an object's field. -/
def field? (name : String) : Json → Option Json
  | .obj fields => fieldIn? fields name
  | _ => none

/-- The truth value, of a truth value. -/
def bool? : Json → Option Bool
  | .bool value => some value
  | _ => none

/-- The text, of a text. -/
def str? : Json → Option String
  | .str value => some value
  | _ => none

/-- The values, of an array. -/
def arr? : Json → Option (List Json)
  | .arr items => some items
  | _ => none

/-- The fields, of an object. -/
def obj? : Json → Option (List (String × Json))
  | .obj fields => some fields
  | _ => none

/-- The number, of a whole number of 64 bits without sign. -/
def word? : Json → Option Nat
  | .num (.int value) => if 0 ≤ value ∧ value < wordBound then some value.toNat else none
  | _ => none

/-- A natural as a value. -/
def nat (n : Nat) : Json := .num (.int n)

/-- A value that may be missing. -/
def ofOption {α : Type} (encode : α → Json) : Option α → Json
  | none => .null
  | some a => encode a

/-- A list of texts as a value. -/
def strings (texts : List String) : Json := .arr (texts.map .str)

theorem word?_nat {n : Nat} (h : n < wordBound) : (nat n).word? = some n := by
  have below : (n : Int) < (wordBound : Nat) := Int.ofNat_lt.mpr h
  simp [nat, word?, below]

end Json

end GateRunner
