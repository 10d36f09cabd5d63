/-!
# Names of checks

A check is known by a category and a name, written `category:name`. Only the first colon separates, so a name may hold
more of them. `CheckId.parse` accepts exactly the texts with a separator and two parts that are not empty; an id built
directly from its two parts is not looked at, so it need not read back.

Ids are ordered by category and then by name, texts by their code points, which is also the order of their UTF-8 bytes.
-/

namespace GateRunner

/-- The name of a check. -/
structure CheckId where
  category : String
  name : String
deriving DecidableEq, Hashable, Repr, Inhabited

/-- Why a text names no check. -/
inductive IdError
  | missingSeparator (text : String)
  | emptyPart (text : String)
deriving DecidableEq, Repr

/-- The wording of an error. -/
def IdError.message : IdError → String
  | .missingSeparator text => "check id '" ++ text ++ "' is missing the 'category:name' separator"
  | .emptyPart text => "check id '" ++ text ++ "' has an empty category or name"

namespace CheckId

/-- The written form `category:name`. -/
def written (id : CheckId) : String := id.category ++ ":" ++ id.name

instance : ToString CheckId := ⟨written⟩

/-- Whether a character is not the separator. -/
def inCategory (c : Char) : Bool := c ≠ ':'

/-- Reads a written id: the category is all before the first colon, the name all after it. -/
def parse (text : String) : Except IdError CheckId :=
  let category := text.toList.takeWhile inCategory
  match text.toList.dropWhile inCategory with
  | [] => .error (.missingSeparator text)
  | _ :: name =>
    if category.isEmpty || name.isEmpty then .error (.emptyPart text)
    else .ok ⟨String.ofList category, String.ofList name⟩

/-- The id a text names, if it names one. -/
def parse? (text : String) : Option CheckId := (parse text).toOption

/-- An id that its written form names: no part is empty, and the category holds no separator. -/
def Readable (id : CheckId) : Prop := id.category ≠ "" ∧ ':' ∉ id.category.toList ∧ id.name ≠ ""

instance (id : CheckId) : Decidable id.Readable := by unfold Readable; infer_instance

/-- The order of ids. -/
def le (a b : CheckId) : Bool := a.category < b.category || (a.category = b.category && a.name ≤ b.name)

/-- Ids in order, repeated ones kept. -/
def sort (ids : List CheckId) : List CheckId := ids.mergeSort le

/-- The members of a list without repetition, each where it first stands. -/
def firstOccurrences (ids : List CheckId) : List CheckId :=
  ids.foldl (fun seen id => if id ∈ seen then seen else seen ++ [id]) []

/-- Ids as one text, separated by commas. -/
def join (ids : List CheckId) : String := ", ".intercalate (ids.map written)

end CheckId

end GateRunner
