import GateRunner.Proofs.Check.Encoding

/-!
# Results, profiles and summaries, written and read back

Results, profiles and summaries name checks, and they may be built with any ids. What is written of an id need not name
it: the name of a category may hold a colon, or a part may be empty. Then the text is refused, or it names another check.
This is the only way in which anything gets lost.

**The law** (`reads_back_iff_readable`): what was written is read as the same exactly when every check that it names is
readable. All that is ever read is so. It is about texts: the values in between have no doubles, so the texts hold them
exactly (`Json.parse?_render`).
-/

namespace GateRunner

open Json (record? nullable? decode? decode?_render)

namespace CheckResult

variable {r : CheckResult}

/-- The numbers of a result have 64 bits. -/
def InWords (r : CheckResult) : Prop := ∀ s, r.extent = some s → s.InWords

/-- The checks that a result names are readable: its own, and the dependency that it was left out for. -/
def Readable (r : CheckResult) : Prop := r.check.Readable ∧ ∀ d, r.omission = some (.dependencyFailed d) → d.Readable

/-- The values of the fields of a result, in the order of the layout. -/
def values (r : CheckResult) : List (Option Json) :=
  [some r.check.toJson, some r.verdict.toJson, some r.duration.toJson, some (.str r.output),
    some (.ofOption .str r.error), some (.ofOption .str r.advice), some (.bool r.fixed), r.omission.map Omission.toJson,
    r.extent.map Extent.toJson]

theorem toJson_eq (r : CheckResult) : r.toJson = .obj (layout.fields r.values) := by
  obtain ⟨_, _, _, _, _, _, _, omission, extent⟩ := r
  cases omission <;> cases extent <;> rfl

/-- **A result is read back from its value exactly when the checks that it names are readable.** -/
theorem ofJson?_toJson_iff {room : Nat} (deep : 1 < room) (words : r.InWords) :
    ofJson? room r.toJson = some r ↔ r.Readable := by
  have read : record? layout r.toJson = some r.values := by
    rw [toJson_eq]
    exact Json.record?_fields _ (by decide) rfl
  have text (t : Option String) : nullable? Json.str? (some (.ofOption .str t)) = some t := by
    rw [Json.nullable?_ofOption]
    exact (Json.nullable?_map_eq_some_iff t fun _ => Json.noConfusion).mpr fun _ _ => rfl
  have extent : nullable? Extent.ofJson? (r.extent.map Extent.toJson) = some r.extent :=
    (Json.nullable?_map_eq_some_iff _ fun _ => Json.noConfusion).mpr fun s held => Extent.ofJson?_toJson (words s held)
  have omission : nullable? (Omission.ofJson? (room - 1)) (r.omission.map Omission.toJson) = some r.omission ↔
      ∀ reason, r.omission = some reason → reason.Readable :=
    (Json.nullable?_map_eq_some_iff _ Omission.toJson_ne_null).trans
      (forall₂_congr fun reason _ => Omission.ofJson?_toJson_iff (by omega) reason)
  rw [ofJson?, read]
  simp only [values, Verdict.ofJson?_toJson, Duration.ofJson?_toJson, Json.str?, Json.bool?, text, extent,
    Option.bind_eq_bind, Option.bind_some, Option.pure_def, Option.bind_eq_some_iff, Option.some.injEq]
  constructor
  · rintro ⟨id, check, reason, left, same⟩
    obtain rfl : id = r.check := congrArg CheckResult.check same
    obtain rfl : reason = r.omission := congrArg CheckResult.omission same
    exact ⟨(CheckId.ofJson?_toJson_iff _).mp check, fun d named => omission.mp left _ named d rfl⟩
  · rintro ⟨check, named⟩
    exact ⟨_, (CheckId.ofJson?_toJson_iff _).mpr check, _,
      omission.mpr fun reason held d same => named d (held.trans (congrArg some same)), rfl⟩

theorem of_ofJson? {room : Nat} {value : Json} (read : ofJson? room value = some r) : r.Readable ∧ r.InWords := by
  unfold ofJson? at read
  split at read
  · simp only [Option.bind_eq_bind, Option.bind_eq_some_iff, Option.pure_def, Option.some.injEq] at read
    obtain ⟨id, check, _, _, _, _, _, _, _, _, _, _, _, _, reason, left, s, size, rfl⟩ := read
    refine ⟨⟨CheckId.readable_of_ofJson? check, ?_⟩, ?_⟩
    · rintro d rfl
      obtain ⟨_, read⟩ := Json.exists_of_nullable? left
      exact Omission.readable_of_ofJson? read d rfl
    · rintro s rfl
      obtain ⟨_, read⟩ := Json.exists_of_nullable? size
      exact Extent.inWords_of_ofJson? read
  · cases read

theorem isPlain_toJson (words : r.InWords) : r.toJson.isPlain = true := by
  rw [toJson_eq]
  refine Json.Layout.isPlainFields_fields layout r.values fun value mem => ?_
  simp only [values, List.mem_cons, Option.some.injEq, List.not_mem_nil, or_false] at mem
  rcases mem with rfl | rfl | rfl | rfl | rfl | rfl | rfl | left | examined
  · rfl
  · rfl
  · exact r.duration.isPlain_toJson
  · rfl
  · cases r.error <;> rfl
  · cases r.advice <;> rfl
  · rfl
  · obtain ⟨reason, _, rfl⟩ := Option.map_eq_some_iff.mp left.symm
    exact reason.isPlain_toJson
  · obtain ⟨s, held, rfl⟩ := Option.map_eq_some_iff.mp examined.symm
    exact Extent.isPlain_toJson (words s held)

end CheckResult

namespace CheckProfile

variable {p : CheckProfile}

/-- The checks that a profile names are readable: its own, and those that it depends on. -/
def Readable (p : CheckProfile) : Prop := p.id.Readable ∧ ∀ d ∈ p.dependencies, d.Readable

/-- The values of the fields of a profile, in the order of the layout. -/
def values (p : CheckProfile) : List (Option Json) :=
  [some p.id.toJson, some (.str p.title), some (CheckId.listToJson p.dependencies), some (.bool p.offersFix)]

/-- **A profile is read back from its value exactly when the checks that it names are readable.** -/
theorem ofJson?_toJson_iff (p : CheckProfile) : ofJson? p.toJson = some p ↔ p.Readable := by
  have read : record? layout p.toJson = some p.values := Json.record?_fields p.values (by decide) rfl
  rw [ofJson?, read]
  simp only [values, Json.str?, Json.bool?, Option.bind_eq_bind, Option.bind_some, Option.pure_def,
    Option.bind_eq_some_iff, Option.some.injEq]
  constructor
  · rintro ⟨id, own, dependencies, others, same⟩
    obtain rfl : id = p.id := congrArg CheckProfile.id same
    obtain rfl : dependencies = p.dependencies := congrArg CheckProfile.dependencies same
    exact ⟨(CheckId.ofJson?_toJson_iff _).mp own, (CheckId.listOfJson?_listToJson_iff _).mp others⟩
  · rintro ⟨own, others⟩
    exact ⟨_, (CheckId.ofJson?_toJson_iff _).mpr own, _, (CheckId.listOfJson?_listToJson_iff _).mpr others, rfl⟩

theorem readable_of_ofJson? {value : Json} (read : ofJson? value = some p) : p.Readable := by
  unfold ofJson? at read
  split at read
  · simp only [Option.bind_eq_bind, Option.bind_eq_some_iff, Option.pure_def, Option.some.injEq] at read
    obtain ⟨id, own, _, _, dependencies, others, _, _, rfl⟩ := read
    exact ⟨CheckId.readable_of_ofJson? own, CheckId.readable_of_listOfJson? others⟩
  · cases read

theorem isPlain_toJson (p : CheckProfile) : p.toJson.isPlain = true := by
  have ids : (CheckId.listToJson p.dependencies).isPlain = true := Json.isPlainItems_map fun _ _ => rfl
  simp only [toJson, Json.isPlain, Json.isPlainFields, CheckId.toJson, ids, Bool.and_self]

end CheckProfile

namespace RunSummary

variable {s : RunSummary}

/-- The counts of a summary and the numbers of its results have 64 bits. -/
def InWords (s : RunSummary) : Prop :=
  s.total < wordBound ∧ (∀ v, s.count v < wordBound) ∧ ∀ r ∈ s.results, r.InWords

/-- The checks that a summary names are readable. -/
def Readable (s : RunSummary) : Prop := ∀ r ∈ s.results, r.Readable

/-- The values of the fields of a summary, in the order of the layout. -/
def values (s : RunSummary) : List (Option Json) :=
  [some (.nat s.total), some (.nat s.passed), some (.nat s.failed), some (.nat s.warned), some (.nat s.skipped),
    some (.nat s.notApplicable), some (.nat s.errors), some s.duration.toJson, some (CheckResult.listToJson s.results)]

/-- **A summary is read back from its value exactly when the checks that it names are readable**, whatever it counts. -/
theorem ofJson?_toJson_iff {room : Nat} (deep : 3 < room) (words : s.InWords) :
    ofJson? room s.toJson = some s ↔ s.Readable := by
  obtain ⟨total, counts, numbers⟩ := words
  have read : record? layout s.toJson = some s.values := Json.record?_fields s.values (by decide) rfl
  have results : CheckResult.listOfJson? (room - 1) (CheckResult.listToJson s.results) = some s.results ↔ s.Readable :=
    (Json.mapM_map_eq_some_iff s.results).trans
      (forall₂_congr fun r mem => CheckResult.ofJson?_toJson_iff (by omega) (numbers r mem))
  have passed := Json.word?_nat (counts .passed)
  have failed := Json.word?_nat (counts .failed)
  have warned := Json.word?_nat (counts .warned)
  have skipped := Json.word?_nat (counts .skipped)
  have notApplicable := Json.word?_nat (counts .notApplicable)
  have errors := Json.word?_nat (counts .error)
  simp only [count] at passed failed warned skipped notApplicable errors
  rw [ofJson?, read]
  simp only [values, Json.word?_nat total, passed, failed, warned, skipped, notApplicable, errors,
    Duration.ofJson?_toJson, Option.bind_eq_bind, Option.bind_some, Option.pure_def, Option.bind_eq_some_iff,
    Option.some.injEq]
  constructor
  · rintro ⟨all, held, same⟩
    obtain rfl : all = s.results := congrArg RunSummary.results same
    exact results.mp held
  · exact fun readable => ⟨_, results.mpr readable, rfl⟩

theorem of_ofJson? {room : Nat} {value : Json} (read : ofJson? room value = some s) : s.Readable ∧ s.InWords := by
  unfold ofJson? at read
  split at read
  · simp only [Option.bind_eq_bind, Option.bind_eq_some_iff, Option.pure_def, Option.some.injEq] at read
    obtain ⟨_, total, _, passed, _, failed, _, warned, _, skipped, _, notApplicable, _, errors, _, _, _, held, rfl⟩ := read
    obtain ⟨_, _, all⟩ := Option.bind_eq_some_iff.mp held
    have each := Json.forall_of_mapM (fun _ _ => CheckResult.of_ofJson?) all
    refine ⟨fun r mem => (each r mem).1, Json.word?_lt total, fun v => ?_, fun r mem => (each r mem).2⟩
    cases v with
    | passed => exact Json.word?_lt passed
    | failed => exact Json.word?_lt failed
    | warned => exact Json.word?_lt warned
    | skipped => exact Json.word?_lt skipped
    | notApplicable => exact Json.word?_lt notApplicable
    | error => exact Json.word?_lt errors
  · cases read

theorem isPlain_toJson (words : s.InWords) : s.toJson.isPlain = true := by
  obtain ⟨total, counts, numbers⟩ := words
  refine Json.Layout.isPlainFields_fields layout s.values fun value mem => ?_
  simp only [values, List.mem_cons, Option.some.injEq, List.not_mem_nil, or_false] at mem
  rcases mem with rfl | rfl | rfl | rfl | rfl | rfl | rfl | rfl | rfl
  · exact Json.isPlain_nat total
  · exact Json.isPlain_nat (counts .passed)
  · exact Json.isPlain_nat (counts .failed)
  · exact Json.isPlain_nat (counts .warned)
  · exact Json.isPlain_nat (counts .skipped)
  · exact Json.isPlain_nat (counts .notApplicable)
  · exact Json.isPlain_nat (counts .error)
  · exact s.duration.isPlain_toJson
  · exact Json.isPlainItems_map fun r mem => CheckResult.isPlain_toJson (numbers r mem)

end RunSummary

/-- What writing the values of a type as texts and reading them back makes of them: those whose numbers fit are read as
the same exactly when the checks that they name are readable, and nothing that was ever read gets lost. -/
structure ReadsBack {α : Type} (write : α → Json) (read : Json → Option α) (fits readable : α → Prop) : Prop where
  back : ∀ a, fits a → (decode? read (write a).render = some a ↔ readable a)
  again : ∀ text a, decode? read text = some a → decode? read (write a).render = some a

namespace ReadsBack

variable {α : Type} {write : α → Json} {read : Json → Option α} {fits readable : α → Prop}

/-- It is enough to know what becomes of the values in between, as they have no doubles. -/
theorem of_values (plain : ∀ {a}, fits a → (write a).isPlain = true)
    (back : ∀ {a}, fits a → (read (write a) = some a ↔ readable a))
    (held : ∀ {value a}, read value = some a → readable a ∧ fits a) : ReadsBack write read fits readable where
  back a fit := by rw [decode?_render (plain fit), back fit]
  again text a holds := by
    obtain ⟨value, _, read⟩ := Option.bind_eq_some_iff.mp holds
    obtain ⟨named, fit⟩ := held read
    rw [decode?_render (plain fit), back fit]
    exact named

end ReadsBack

/-- **What was written is read as the same exactly when every check that it names is readable**, and what was ever read is
written and read as the same: results, profiles and summaries alike. -/
theorem reads_back_iff_readable :
    ReadsBack CheckResult.toJson (CheckResult.ofJson? Json.nestingLimit) CheckResult.InWords CheckResult.Readable ∧
      ReadsBack CheckProfile.toJson CheckProfile.ofJson? (fun _ => True) CheckProfile.Readable ∧
      ReadsBack RunSummary.toJson (RunSummary.ofJson? Json.nestingLimit) RunSummary.InWords RunSummary.Readable :=
  ⟨.of_values CheckResult.isPlain_toJson (CheckResult.ofJson?_toJson_iff (by decide)) CheckResult.of_ofJson?,
    .of_values (fun {p} _ => p.isPlain_toJson) (fun {p} _ => p.ofJson?_toJson_iff)
      (fun read => ⟨CheckProfile.readable_of_ofJson? read, trivial⟩),
    .of_values RunSummary.isPlain_toJson (RunSummary.ofJson?_toJson_iff (by decide)) RunSummary.of_ofJson?⟩

/-- A result that says that it was left out for the sake of a check. -/
def sampleOmitted (dependency : CheckId) : CheckResult :=
  (CheckResult.skipped ⟨"rust", "tests"⟩ (.dependencyFailed dependency)).withExtent ⟨3, 120⟩

/-- Left out for `rust:lint` it is read back; left out for `lint` in the category `a:b` it is not, in a summary either. A
profile that was read from an array is read back from the object that is written of it. -/
theorem samples_read_back :
    decode? (CheckResult.ofJson? Json.nestingLimit) (sampleOmitted ⟨"rust", "lint"⟩).toJson.render =
        some (sampleOmitted ⟨"rust", "lint"⟩) ∧
      decode? (CheckResult.ofJson? Json.nestingLimit) (sampleOmitted ⟨"a:b", "lint"⟩).toJson.render ≠
        some (sampleOmitted ⟨"a:b", "lint"⟩) ∧
      decode? (RunSummary.ofJson? Json.nestingLimit)
          (RunSummary.ofResults [sampleOmitted ⟨"a:b", "lint"⟩] .zero).toJson.render ≠
        some (RunSummary.ofResults [sampleOmitted ⟨"a:b", "lint"⟩] .zero) ∧
      decode? CheckProfile.ofJson? "[\"rust:lint\", \"Lint\", [\"rust:fmt\"], true]" =
        some ⟨⟨"rust", "lint"⟩, "Lint", [⟨"rust", "fmt"⟩], true⟩ ∧
      decode? CheckProfile.ofJson? (CheckProfile.mk ⟨"rust", "lint"⟩ "Lint" [⟨"rust", "fmt"⟩] true).toJson.render =
        some ⟨⟨"rust", "lint"⟩, "Lint", [⟨"rust", "fmt"⟩], true⟩ := by
  obtain ⟨results, profiles, summaries⟩ := reads_back_iff_readable
  have fits (d : CheckId) : (sampleOmitted d).InWords := by
    rintro s held
    obtain rfl := Option.some.inj held
    exact ⟨by decide, by decide⟩
  have hidden : ¬ (sampleOmitted ⟨"a:b", "lint"⟩).Readable := fun named => absurd (named.2 _ rfl) (by decide)
  have array : decode? CheckProfile.ofJson? "[\"rust:lint\", \"Lint\", [\"rust:fmt\"], true]" =
      some ⟨⟨"rust", "lint"⟩, "Lint", [⟨"rust", "fmt"⟩], true⟩ := by decide +kernel
  refine ⟨(results.back _ (fits _)).mpr ⟨by decide, ?_⟩, fun read => hidden ((results.back _ (fits _)).mp read),
    fun read => hidden ((summaries.back _ ⟨by decide, fun v => ?_, ?_⟩).mp read _ (List.mem_singleton_self _)),
    array, profiles.again _ _ array⟩
  · rintro d named
    obtain rfl := Omission.dependencyFailed.inj (Option.some.inj named)
    decide
  · cases v <;> decide
  · rintro r mem
    obtain rfl := List.mem_singleton.mp mem
    exact fits _

end GateRunner
