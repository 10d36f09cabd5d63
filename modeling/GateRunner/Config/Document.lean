import GateRunner.Config.Settings
import GateRunner.Check.Id

/-!
# Configuration documents

A document holds an object per category, with a flag `enabled` and the settings of its gates under `gates`, and a list
`disabled_gates` of written ids. A gate is off when it is in the list, when its category is off, or when its own
settings say so, in this order; whatever is missing or of another kind switches nothing off.
-/

namespace GateRunner

/-- Why a text is no configuration. -/
inductive ConfigError
  /-- It is no JSON text. -/
  | json
  /-- It is a value other than an object. -/
  | notAnObject
deriving DecidableEq, Repr

/-- The wording of an error. -/
def ConfigError.message : ConfigError → String
  | .json => "invalid configuration JSON"
  | .notAnObject => "configuration root must be a JSON object"

/-- Whether a gate may run. -/
inductive Switch
  | on
  | off (reason : String)
deriving DecidableEq, Repr

/-- A configuration document. -/
structure Configuration where
  root : Json
deriving Inhabited

namespace Configuration

/-- The document in which nothing is set. -/
def default : Configuration := ⟨.obj []⟩

/-- The document of a value, which has to be an object. -/
def ofJson (root : Json) : Except ConfigError Configuration :=
  match root with
  | .obj _ => .ok ⟨root⟩
  | _ => .error .notAnObject

/-- The document in a text. -/
def parse (text : String) : Except ConfigError Configuration :=
  match Json.document? text with
  | some root => ofJson root
  | none => .error .json

/-- The settings of a gate, none if the document has no object for it. -/
def settingsOf (config : Configuration) (id : CheckId) : Settings :=
  match ((config.root.field? id.category).bind (Json.field? "gates")).bind (Json.field? id.name) with
  | some (.obj fields) => ⟨fields⟩
  | _ => .empty

/-- Whether an id is in the list of disabled gates. -/
def lists (config : Configuration) (id : CheckId) : Bool :=
  match config.root.field? "disabled_gates" with
  | some (.arr items) => items.any (fun item => item.str? = some id.written)
  | _ => false

/-- The category of an id as the document has it, if that is an object. -/
def category? (config : Configuration) (id : CheckId) : Option (List (String × Json)) :=
  (config.root.field? id.category).bind Json.obj?

/-- Whether a gate may run, and if not, why. -/
def switchOf (config : Configuration) (id : CheckId) : Switch :=
  if config.lists id then .off (id.written ++ " is in disabled_gates list")
  else
    match config.category? id with
    | none => .on
    | some category =>
      if (Json.fieldIn? category "enabled").bind Json.bool? = some false then
        .off (id.category ++ " category is disabled in config")
      else if (config.settingsOf id).bool? "enabled" = some false then
        .off (id.written ++ " is disabled in config")
      else .on

end Configuration

end GateRunner
