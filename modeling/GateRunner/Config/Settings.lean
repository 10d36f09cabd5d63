import GateRunner.Json.Reader

/-!
# Settings of one gate

The fragment of a configuration that belongs to one gate. It is handed to the check as it stands; the functions here
look up one key and say nothing where the value is of another kind.
-/

namespace GateRunner

/-- The settings of one gate, by name. -/
structure Settings where
  fields : List (String × Json)
deriving Inhabited

namespace Settings

/-- No settings. -/
def empty : Settings := ⟨[]⟩

/-- The value of a key. -/
def get? (s : Settings) (key : String) : Option Json := Json.fieldIn? s.fields key

/-- The truth value of a key. -/
def bool? (s : Settings) (key : String) : Option Bool := (s.get? key).bind Json.bool?

/-- The whole number of a key. -/
def word? (s : Settings) (key : String) : Option Nat := (s.get? key).bind Json.word?

/-- The text of a key. -/
def str? (s : Settings) (key : String) : Option String := (s.get? key).bind Json.str?

/-- The texts in the list of a key; what else is in the list is passed over. -/
def strings? (s : Settings) (key : String) : Option (List String) :=
  ((s.get? key).bind Json.arr?).map (List.filterMap Json.str?)

/-- Whether there are no settings. -/
def isEmpty (s : Settings) : Bool := s.fields.isEmpty

/-- The settings as a value. -/
def toJson (s : Settings) : Json := .obj s.fields

/-- The settings in a text. -/
def parse? (text : String) : Option Settings := ((Json.document? text).bind Json.obj?).map .mk

end Settings

end GateRunner
