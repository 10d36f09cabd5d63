import GateRunner.Check.Codec
import GateRunner.Proofs.Check.Written
import GateRunner.Proofs.Json.Records

/-!
# The parts of a result in JSON

Each part of a result has a value, and is read back from it under a condition of its own. A verdict and a duration always
are: there is a word for each verdict, and a duration has no whole second among its nanoseconds. The numbers of an extent
have to have 64 bits. An id is written as one text without being looked at, so it is read back exactly when it is
readable (`CheckId.ofJson?_toJson_iff`), and so is a reason that names one (`Omission.ofJson?_toJson_iff`).

What is read, from whatever value, meets the condition. So nothing that was read is ever lost by writing it.
-/

namespace GateRunner

open Json (record? nullable?)

namespace CheckId

/-- **An id is read back exactly when it is readable.** -/
theorem ofJson?_toJson_iff (id : CheckId) : ofJson? id.toJson = some id ↔ id.Readable := by
  refine ⟨readable_of_parse?, fun readable => ?_⟩
  show parse? id.written = some id
  rw [parse?, parse_written readable]
  rfl

theorem readable_of_ofJson? {value : Json} {id : CheckId} (read : ofJson? value = some id) : id.Readable := by
  obtain ⟨text, _, named⟩ := Option.bind_eq_some_iff.mp read
  exact readable_of_parse? named

theorem listOfJson?_listToJson_iff (ids : List CheckId) :
    listOfJson? (listToJson ids) = some ids ↔ ∀ id ∈ ids, id.Readable :=
  (Json.mapM_map_eq_some_iff ids).trans (forall₂_congr fun id _ => ofJson?_toJson_iff id)

theorem readable_of_listOfJson? {value : Json} {ids : List CheckId} (read : listOfJson? value = some ids) :
    ∀ id ∈ ids, id.Readable := by
  obtain ⟨_, _, all⟩ := Option.bind_eq_some_iff.mp read
  exact Json.forall_of_mapM (fun _ _ => readable_of_ofJson?) all

end CheckId

theorem Verdict.ofJson?_toJson (v : Verdict) : ofJson? v.toJson = some v := ofLabel?_label v

namespace Duration

variable (d : Duration)

theorem nanos_lt_wordBound : d.nanos < wordBound := d.nanos_lt.trans (by decide)

/-- A duration is read back. -/
theorem ofJson?_toJson : ofJson? d.toJson = some d := by
  have small : d.nanos < twoTo 32 := d.nanos_lt.trans (by decide)
  have read : record? [("secs", .required), ("nanos", .required)] d.toJson =
      some [some (.nat d.secs), some (.nat d.nanos)] :=
    Json.record?_fields [some (.nat d.secs), some (.nat d.nanos)] (by decide) rfl
  have only : hasOnlyParts d.toJson = true := rfl
  rw [ofJson?, if_pos only, read]
  simp only [Json.word?_nat d.nanos_lt_wordBound, Json.word?_nat d.secs_lt, Option.bind_eq_bind, Option.bind_some,
    if_pos small, ofParts?_eq_some]

theorem isPlain_toJson : d.toJson.isPlain = true := by
  simp only [toJson, Json.isPlain, Json.isPlainFields, Json.isPlain_nat d.secs_lt, Json.isPlain_nat d.nanos_lt_wordBound,
    Bool.and_self]

end Duration

namespace Extent

variable {s : Extent}

/-- The numbers of an extent have 64 bits. -/
def InWords (s : Extent) : Prop := s.files < wordBound ∧ s.lines < wordBound

theorem ofJson?_toJson (words : s.InWords) : ofJson? s.toJson = some s := by
  have read : record? [("files", .required), ("lines", .required)] s.toJson =
      some [some (.nat s.files), some (.nat s.lines)] :=
    Json.record?_fields [some (.nat s.files), some (.nat s.lines)] (by decide) rfl
  rw [ofJson?, read]
  simp only [Json.word?_nat words.1, Json.word?_nat words.2, Option.bind_eq_bind, Option.bind_some, Option.pure_def]

theorem inWords_of_ofJson? {value : Json} (read : ofJson? value = some s) : s.InWords := by
  unfold ofJson? at read
  split at read
  · simp only [Option.bind_eq_bind, Option.bind_eq_some_iff, Option.pure_def, Option.some.injEq] at read
    obtain ⟨files, hfiles, lines, hlines, rfl⟩ := read
    exact ⟨Json.word?_lt hfiles, Json.word?_lt hlines⟩
  · cases read

theorem isPlain_toJson (words : s.InWords) : s.toJson.isPlain = true := by
  simp only [toJson, Json.isPlain, Json.isPlainFields, Json.isPlain_nat words.1, Json.isPlain_nat words.2, Bool.and_self]

end Extent

namespace Omission

/-- The check that a reason names is readable, if it names one. -/
def Readable (reason : Omission) : Prop := ∀ d, reason = .dependencyFailed d → d.Readable

/-- **A reason is read back exactly when the check that it names is readable.** -/
theorem ofJson?_toJson_iff {room : Nat} (deep : room ≠ 0) (reason : Omission) :
    ofJson? room reason.toJson = some reason ↔ reason.Readable := by
  cases reason with
  | notApplicable =>
    have read : ofJson? room (toJson .notApplicable) = some .notApplicable := if_neg deep
    exact ⟨fun _ _ named => (by cases named), fun _ => read⟩
  | failFast =>
    have read : ofJson? room (toJson .failFast) = some .failFast := if_neg deep
    exact ⟨fun _ _ named => (by cases named), fun _ => read⟩
  | dependencyFailed d =>
    have read : ofJson? room (toJson (.dependencyFailed d)) = (CheckId.ofJson? d.toJson).map .dependencyFailed :=
      if_neg deep
    simp only [read, Option.map_eq_some_iff, dependencyFailed.injEq, exists_eq_right, CheckId.ofJson?_toJson_iff,
      Readable, forall_eq']

theorem readable_of_ofKind? {kind : String} {values : List Json} {reason : Omission}
    (read : ofKind? kind values = some reason) : reason.Readable := by
  unfold ofKind? at read
  rintro d rfl
  split at read
  · cases read
  split at read
  · cases read
  split at read
  · split at read
    · obtain ⟨_, named, same⟩ := Option.map_eq_some_iff.mp read
      cases same
      exact CheckId.readable_of_ofJson? named
    · cases read
  · cases read

/-- Whatever form a reason is given in, it is read by its kind. -/
theorem exists_ofKind? {room : Nat} {value : Json} {reason : Omission} (read : ofJson? room value = some reason) :
    ∃ kind values, ofKind? kind values = some reason := by
  unfold ofJson? at read
  split at read
  · -- an object gives its kind in a field
    split at read
    · cases read
    split at read
    · split at read
      · exact ⟨_, _, read⟩
      · cases read
    · cases read
  · -- an array starts with its kind
    split at read
    · cases read
    split at read
    · split at read
      · exact ⟨_, _, read⟩
      · cases read
    · cases read
  · cases read

theorem readable_of_ofJson? {room : Nat} {value : Json} {reason : Omission} (read : ofJson? room value = some reason) :
    reason.Readable := by
  obtain ⟨_, _, read⟩ := exists_ofKind? read
  exact readable_of_ofKind? read

theorem toJson_ne_null (reason : Omission) : reason.toJson ≠ .null := by cases reason <;> exact Json.noConfusion

theorem isPlain_toJson (reason : Omission) : reason.toJson.isPlain = true := by cases reason <;> rfl

end Omission

end GateRunner
