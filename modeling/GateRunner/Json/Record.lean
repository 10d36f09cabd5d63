import GateRunner.Json.Value

/-!
# Records in JSON

A record of named fields is read from an object, in any order and among fields of other names, or from an array that
holds the fields in the order of the layout. A field of the layout may not stand twice. What may be left out is part of
the layout: a field that has to be there, one that an object may leave out, and one that an array may break off before.
-/

namespace GateRunner.Json

/-- When a field may be left out. -/
inductive Presence
  /-- Never. -/
  | required
  /-- In an object. -/
  | optional
  /-- In an object, and at the end of an array. -/
  | trailing
deriving DecidableEq

/-- The fields of a record, in order. -/
abbrev Layout := List (String × Presence)

/-- The fields of a record read from an object. -/
def namedFields? (layout : Layout) (fields : List (String × Json)) : Option (List (Option Json)) :=
  if layout.any (fun f => 1 < fields.countP (fun field => field.1 = f.1)) then none
  else layout.mapM fun f =>
    match fieldIn? fields f.1 with
    | some value => some (some value)
    | none => if f.2 = .required then none else some none

/-- The fields of a record read from an array. -/
def orderedFields? : Layout → List Json → Option (List (Option Json))
  | [], [] => some []
  | [], _ :: _ => none
  | (_, presence) :: layout, [] => if presence = .trailing then (orderedFields? layout []).map (none :: ·) else none
  | _ :: layout, value :: values => (orderedFields? layout values).map (some value :: ·)

/-- The fields of a record, in the order of the layout. -/
def record? (layout : Layout) : Json → Option (List (Option Json))
  | .obj fields => namedFields? layout fields
  | .arr items => orderedFields? layout items
  | _ => none

/-- A value that may be missing: `null`, like a field that was left out, is none. -/
def nullable? {α : Type} (read : Json → Option α) : Option Json → Option (Option α)
  | none | some .null => some none
  | some value => (read value).map some

end GateRunner.Json
