import GateRunner.Proofs.Check.RoundTrip

/-!
# The counts of a summary

A summary keeps its results and, beside them, how many there are of each verdict. Whether the run succeeded is read off
the counts, and what was in the way of it off the results, so the two agree only as far as the counts do.

**The law** (`agrees_iff_counted`): a summary agrees with its results exactly when it is the one that is counted from
them. All that are made from results are. One that is read has the counts that its text has: any counts are read, as long
as they have 64 bits, so a text can claim success over a failure.
-/

namespace GateRunner.RunSummary

open Json (decode? decode?_render)

variable {s : RunSummary}

/-- The counts of a summary and its verdict are those of its results. -/
structure Agrees (s : RunSummary) : Prop where
  total : s.total = s.results.length
  count : ∀ v, s.count v = s.results.countP (fun r => r.verdict = v)
  parts : s.passed + s.failed + s.warned + s.skipped + s.notApplicable + s.errors = s.total
  verdict : s.succeeded = true ↔ s.blocking = []

theorem count_ofResults (results : List CheckResult) (duration : Duration) (v : Verdict) :
    (ofResults results duration).count v = results.countP (fun r => r.verdict = v) := by cases v <;> rfl

/-- Every result has one of the six verdicts. -/
theorem parts_ofResults (results : List CheckResult) (duration : Duration) :
    let s := ofResults results duration
    s.passed + s.failed + s.warned + s.skipped + s.notApplicable + s.errors = s.total := by
  induction results with
  | nil => rfl
  | cons r rest ih =>
    simp only [ofResults, List.countP_cons, List.length_cons] at ih ⊢
    cases r.verdict <;>
      simp only [decide_true, reduceCtorEq, decide_false, Bool.false_eq_true, if_true, if_false, Nat.add_zero] <;> omega

/-- Where the failures and the errors are counted, a run succeeded exactly when nothing was in its way. -/
theorem succeeded_iff_of_counts (failed : s.failed = s.results.countP (fun r => r.verdict = .failed))
    (errors : s.errors = s.results.countP (fun r => r.verdict = .error)) : s.succeeded = true ↔ s.blocking = [] := by
  simp only [succeeded, failed, errors, Bool.and_eq_true, decide_eq_true_eq, List.countP_eq_zero, blocking,
    List.filter_eq_nil_iff, ← forall₂_and]
  refine forall₂_congr fun r _ => ?_
  cases r.verdict <;> decide

theorem agrees_ofResults (results : List CheckResult) (duration : Duration) : (ofResults results duration).Agrees where
  total := rfl
  count := count_ofResults results duration
  parts := parts_ofResults results duration
  verdict := succeeded_iff_of_counts rfl rfl

theorem Agrees.eq_ofResults (agrees : s.Agrees) : s = ofResults s.results s.duration := by
  obtain ⟨_, _, _, _, _, _, _, duration, results⟩ := s
  obtain ⟨total, count, -, -⟩ := agrees
  have passed := count .passed
  have failed := count .failed
  have warned := count .warned
  have skipped := count .skipped
  have notApplicable := count .notApplicable
  have errors := count .error
  simp only [RunSummary.count] at total passed failed warned skipped notApplicable errors
  simp only [ofResults, total, passed, failed, warned, skipped, notApplicable, errors]

/-- Whatever it counts, a summary is read from the text that is written of it. -/
theorem decode?_toJson (words : s.InWords) (readable : s.Readable) :
    decode? (ofJson? Json.nestingLimit) s.toJson.render = some s := by
  rw [decode?_render (isPlain_toJson words)]
  exact (ofJson?_toJson_iff (by decide) words).mpr readable

/-- What texts can be read as. -/
theorem exists_text_iff :
    (∃ text, decode? (ofJson? Json.nestingLimit) text = some s) ↔ s.InWords ∧ s.Readable := by
  refine ⟨?_, fun ⟨words, readable⟩ => ⟨_, decode?_toJson words readable⟩⟩
  rintro ⟨text, read⟩
  obtain ⟨value, _, held⟩ := Option.bind_eq_some_iff.mp read
  exact (of_ofJson? held).symm

/-- **A summary agrees with its results exactly when it is counted from them.** Those that are made from results are; those
that are read are only bound to name readable checks and to count in 64 bits. -/
theorem agrees_iff_counted (s : RunSummary) :
    (s.Agrees ↔ s = ofResults s.results s.duration) ∧
      (∀ results duration, (ofResults results duration).Agrees) ∧ (∀ duration, (empty duration).Agrees) ∧
      ((∃ text, decode? (ofJson? Json.nestingLimit) text = some s) ↔ s.InWords ∧ s.Readable) :=
  ⟨⟨Agrees.eq_ofResults, fun counted => counted ▸ agrees_ofResults s.results s.duration⟩, agrees_ofResults,
    agrees_ofResults [], exists_text_iff⟩

/-- A failed result beside counts that are all zero. -/
def uncounted : RunSummary := ⟨0, 0, 0, 0, 0, 0, 0, .zero, [.failed ⟨"rust", "lint"⟩ .zero "two warnings"]⟩

/-- The text of `uncounted` is accepted, and what is read succeeded with a failure in its way. -/
theorem read_summary_disagrees :
    decode? (ofJson? Json.nestingLimit) uncounted.toJson.render = some uncounted ∧
      uncounted.total ≠ uncounted.results.length ∧
      uncounted.count .failed ≠ uncounted.results.countP (fun r => r.verdict = .failed) ∧
      uncounted.succeeded = true ∧ uncounted.blocking.map (·.check) = [⟨"rust", "lint"⟩] ∧ ¬ uncounted.Agrees := by
  have only {r : CheckResult} (mem : r ∈ uncounted.results) : r = .failed ⟨"rust", "lint"⟩ .zero "two warnings" :=
    List.mem_singleton.mp mem
  have words : uncounted.InWords := by
    refine ⟨by decide, fun v => by cases v <;> decide, fun r mem s held => ?_⟩
    rw [only mem] at held
    cases held
  have readable : uncounted.Readable := by
    refine fun r mem => only mem ▸ ⟨by decide, fun d named => ?_⟩
    cases named
  exact ⟨decode?_toJson words readable, by decide, by decide, by decide, by decide,
    fun agrees => absurd agrees.total (by decide)⟩

end GateRunner.RunSummary
