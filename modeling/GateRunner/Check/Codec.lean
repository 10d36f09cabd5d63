import GateRunner.Check.Profile
import GateRunner.Check.Summary
import GateRunner.Json.Record

/-!
# Results, summaries and profiles in JSON

How the types of this library are written as JSON values and read back. An id is its written form and so is read back
only if it is readable. A verdict is its word. A reason for leaving a check out is an object whose field
`kind` names it. A reading function refuses what it cannot make sense of, with no word on why.

`room` is the number of levels of nesting that a value may still have. Only a reason needs it: its fields are read as
documents before it is known which of them count.
-/

namespace GateRunner

open Json (record? nullable?)

namespace CheckId

/-- The id as a value. -/
def toJson (id : CheckId) : Json := .str id.written

/-- The id of a value. -/
def ofJson? (value : Json) : Option CheckId := value.str?.bind parse?

/-- Ids as a value. -/
def listToJson (ids : List CheckId) : Json := .arr (ids.map toJson)

/-- The ids of a value. -/
def listOfJson? (value : Json) : Option (List CheckId) := value.arr?.bind (List.mapM ofJson?)

end CheckId

namespace Verdict

/-- The verdict as a value. -/
def toJson (verdict : Verdict) : Json := .str verdict.label

/-- The verdict of a value: its word, alone or as the name of an object's only field, which then is `null`. -/
def ofJson? : Json → Option Verdict
  | .str word => ofLabel? word
  | .obj [(word, .null)] => ofLabel? word
  | _ => none

end Verdict

namespace Omission

/-- The reason as a value. -/
def toJson : Omission → Json
  | .notApplicable => .obj [("kind", .str "not_applicable")]
  | .dependencyFailed dependency => .obj [("kind", .str "dependency_failed"), ("dependency", dependency.toJson)]
  | .failFast => .obj [("kind", .str "fail_fast")]

/-- The reason of a kind and of the values that give the dependency. -/
def ofKind? (kind : String) (dependency : List Json) : Option Omission :=
  if kind = "not_applicable" then some .notApplicable
  else if kind = "fail_fast" then some .failFast
  else if kind = "dependency_failed" then
    match dependency with
    | [value] => (CheckId.ofJson? value).map .dependencyFailed
    | _ => none
  else none

/-- The values of the fields of that name. -/
def valuesOf (fields : List (String × Json)) (name : String) : List Json :=
  (fields.filter (fun f => f.1 = name)).map (·.2)

/-- The reason of a value: an object with a field `kind`, or an array that starts with the kind. Only an array that is
one longer may give a dependency, and only where the kind asks for it. -/
def ofJson? (room : Nat) : Json → Option Omission
  | .obj fields =>
    if room = 0 then none
    else
      match valuesOf fields "kind" with
      | [.str kind] =>
        if fields.all (fun f => (f.2.canonical? (room - 1)).isSome) then ofKind? kind (valuesOf fields "dependency")
        else none
      | _ => none
  | .arr (.str kind :: rest) =>
    if room = 0 then none
    else if rest.all (fun v => (v.canonical? (room - 1)).isSome) then
      if kind = "dependency_failed" || rest.isEmpty then ofKind? kind rest else none
    else none
  | _ => none

end Omission

namespace Extent

/-- The extent as a value. -/
def toJson (s : Extent) : Json := .obj [("files", .nat s.files), ("lines", .nat s.lines)]

/-- The extent of a value. -/
def ofJson? (value : Json) : Option Extent :=
  match record? [("files", .required), ("lines", .required)] value with
  | some [some files, some lines] => do return ⟨← files.word?, ← lines.word?⟩
  | _ => none

end Extent

namespace Duration

/-- The duration as a value. -/
def toJson (d : Duration) : Json := .obj [("secs", .nat d.secs), ("nanos", .nat d.nanos)]

/-- Whether a value has no field but those of a duration. -/
def hasOnlyParts : Json → Bool
  | .obj fields => fields.all (fun f => f.1 = "secs" || f.1 = "nanos")
  | _ => true

/-- The duration of a value: the nanoseconds are a number of 32 bits, and whole seconds among them are carried. -/
def ofJson? (value : Json) : Option Duration :=
  if hasOnlyParts value then
    match record? [("secs", .required), ("nanos", .required)] value with
    | some [some secs, some nanos] => do
      let nanos ← nanos.word?
      if nanos < twoTo 32 then ofParts? (← secs.word?) nanos else none
    | _ => none
  else none

end Duration

namespace CheckResult

/-- The fields of a result. -/
def layout : Json.Layout :=
  [("check", .required), ("status", .required), ("duration", .required), ("output", .required), ("error", .optional),
    ("fix_suggestion", .optional), ("auto_fixed", .required), ("skip_reason", .trailing), ("scope", .trailing)]

/-- The result as a value; a reason and an extent stand there only if the result has them. -/
def toJson (r : CheckResult) : Json :=
  .obj ([("check", r.check.toJson), ("status", r.verdict.toJson), ("duration", r.duration.toJson),
      ("output", .str r.output), ("error", .ofOption .str r.error),
      ("fix_suggestion", .ofOption .str r.advice), ("auto_fixed", .bool r.fixed)]
    ++ (r.omission.map (fun reason => ("skip_reason", reason.toJson))).toList
    ++ (r.extent.map (fun extent => ("scope", extent.toJson))).toList)

/-- The result of a value. -/
def ofJson? (room : Nat) (value : Json) : Option CheckResult :=
  match record? layout value with
  | some [some check, some verdict, some duration, some output, error, advice, some fixed, omission, extent] => do
    return { check := ← CheckId.ofJson? check
             verdict := ← Verdict.ofJson? verdict
             duration := ← Duration.ofJson? duration
             output := ← output.str?
             error := ← nullable? Json.str? error
             advice := ← nullable? Json.str? advice
             fixed := ← fixed.bool?
             omission := ← nullable? (Omission.ofJson? (room - 1)) omission
             extent := ← nullable? Extent.ofJson? extent }
  | _ => none

/-- Results as a value. -/
def listToJson (results : List CheckResult) : Json := .arr (results.map toJson)

/-- The results of a value. -/
def listOfJson? (room : Nat) (value : Json) : Option (List CheckResult) :=
  value.arr?.bind (List.mapM (ofJson? (room - 1)))

end CheckResult

namespace CheckProfile

/-- The fields of a profile. -/
def layout : Json.Layout :=
  [("id", .required), ("display_name", .required), ("depends_on", .required), ("auto_fix", .required)]

/-- The profile as a value. -/
def toJson (p : CheckProfile) : Json :=
  .obj [("id", p.id.toJson), ("display_name", .str p.title), ("depends_on", CheckId.listToJson p.dependencies),
    ("auto_fix", .bool p.offersFix)]

/-- The profile of a value. -/
def ofJson? (value : Json) : Option CheckProfile :=
  match record? layout value with
  | some [some id, some title, some dependencies, some offersFix] => do
    return ⟨← CheckId.ofJson? id, ← title.str?, ← CheckId.listOfJson? dependencies, ← offersFix.bool?⟩
  | _ => none

end CheckProfile

namespace RunSummary

/-- The fields of a summary. -/
def layout : Json.Layout :=
  [("total_checks", .required), ("passed", .required), ("failed", .required), ("warned", .required),
    ("skipped", .required), ("not_applicable", .required), ("errors", .required), ("total_duration", .required),
    ("results", .required)]

/-- The summary as a value. -/
def toJson (s : RunSummary) : Json :=
  .obj [("total_checks", .nat s.total), ("passed", .nat s.passed), ("failed", .nat s.failed),
    ("warned", .nat s.warned), ("skipped", .nat s.skipped), ("not_applicable", .nat s.notApplicable),
    ("errors", .nat s.errors), ("total_duration", s.duration.toJson),
    ("results", CheckResult.listToJson s.results)]

/-- The summary of a value. The counts are taken as they stand. -/
def ofJson? (room : Nat) (value : Json) : Option RunSummary :=
  match record? layout value with
  | some [some total, some passed, some failed, some warned, some skipped, some notApplicable, some errors,
      some duration, some results] => do
    return { total := ← total.word?
             passed := ← passed.word?
             failed := ← failed.word?
             warned := ← warned.word?
             skipped := ← skipped.word?
             notApplicable := ← notApplicable.word?
             errors := ← errors.word?
             duration := ← Duration.ofJson? duration
             results := ← CheckResult.listOfJson? (room - 1) results }
  | _ => none

end RunSummary

end GateRunner
