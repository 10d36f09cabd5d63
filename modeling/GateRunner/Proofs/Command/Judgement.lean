import GateRunner.Command.Gate
import Mathlib.Logic.Basic
import Mathlib.Tactic.ByContra

/-!
# The judgement on a command

A command has met its gate when the program ends by itself with the code that is expected, and its output does not match
the pattern for failures. The code decides first, then that pattern, then the one for warnings (`judge_cases`); patterns
may be any tests of a text.

The end of a process is looked at as a number, and -1 stands for a program that was killed. A program that ends by itself
has no negative code, so a gate that expects -1 is met by no code. It is met by being killed (`TakenAsExpected`).

**The law** (`judged_by_number`): a finished process is judged by that number. So the judgement is the one that is told,
by `EndsAsExpected`, except where -1 is expected of a program that was killed and wrote nothing that counts as a failure.
-/

namespace GateRunner.CommandGate

/-- The process came to an end by itself, with the code that is expected. -/
def EndsAsExpected (c : CommandGate) (ending : ExitState) : Prop :=
  ∃ code : Nat, ending = .code code ∧ (code : Int) = c.expectedCode

/-- The end of the process is taken for the one that is expected. -/
def TakenAsExpected (c : CommandGate) (ending : ExitState) : Prop :=
  c.EndsAsExpected ending ∨ (∃ signal, ending = .signal signal) ∧ c.expectedCode = -1

/-- There is a pattern, and the text matches it. -/
def Matches (pattern : Option Matcher) (text : String) : Prop := ∃ m, pattern = some m ∧ m.test text = true

/-- A result is the judgement on a finished process, given which ends are expected. -/
structure Judges (c : CommandGate) (expected : ExitState → Prop) (output : ProcessOutput) (r : CheckResult) : Prop where
  check : r.check = c.id
  /-- The output is the text of both channels, -/
  text : r.output = Utf8.decodeLossy output.stdout ++ Utf8.decodeLossy output.stderr
  /-- and with the end of the process it decides whether the gate is met, -/
  failed : r.verdict = .failed ↔ ¬ expected output.ending ∨ Matches c.failWhen r.output
  /-- and if it is, whether there is something to note. -/
  warned : r.verdict = .warned ↔ expected output.ending ∧ ¬ Matches c.failWhen r.output ∧ Matches c.warnWhen r.output
  passed : r.verdict = .passed ↔ expected output.ending ∧ ¬ Matches c.failWhen r.output ∧ ¬ Matches c.warnWhen r.output
  /-- A failure has a reason, and the advice of the check, and nothing else has. -/
  error : r.error.isSome = true ↔ r.verdict = .failed
  advice : r.advice = if r.verdict = .failed then c.advice else none

variable {c : CommandGate} {ending : ExitState} {output : ProcessOutput} {text : String}

/-- The number is the one that is expected exactly if the end is taken for it. -/
theorem codeOrMinusOne_eq_iff : ending.codeOrMinusOne = c.expectedCode ↔ c.TakenAsExpected ending := by
  cases ending with
  | code n =>
    constructor
    · intro same
      exact .inl ⟨n, rfl, same⟩
    · rintro (⟨code, h, same⟩ | ⟨⟨signal, h⟩, _⟩)
      · cases h
        exact same
      · cases h
  | signal n =>
    constructor
    · intro same
      exact .inr ⟨⟨n, rfl⟩, same.symm⟩
    · rintro (⟨code, h, _⟩ | ⟨_, same⟩)
      · cases h
      · exact same.symm

theorem matches_iff {pattern : Option Matcher} :
    pattern.any (fun (m : Matcher) => m.test text) = true ↔ Matches pattern text := by
  cases pattern with
  | none => simp [Matches]
  | some m => simp [Matches]

/-- There is nothing against a process that ended as expected, if its output does not match the pattern for failures. -/
theorem failure?_eq_none_iff :
    c.failure? ending text = none ↔ c.TakenAsExpected ending ∧ ¬ Matches c.failWhen text := by
  rw [← codeOrMinusOne_eq_iff, ← matches_iff, failure?]
  by_cases same : ending.codeOrMinusOne = c.expectedCode
  · cases c.failWhen with
    | none => simp [same]
    | some m => by_cases found : m.test text = true <;> simp [same, found]
  · simp [same]

/-- A finished process has failed, or was met with something to note, or just met. -/
theorem judge_cases (c : CommandGate) (output : ProcessOutput) (duration : Duration) :
    (∃ error, c.failure? output.ending (outputText output) = some error ∧ c.judge output duration =
      ({ CheckResult.failed c.id duration error with advice := c.advice }).withOutput (outputText output)) ∨
    (c.failure? output.ending (outputText output) = none ∧ Matches c.warnWhen (outputText output) ∧
      c.judge output duration = (CheckResult.warned c.id duration).withOutput (outputText output)) ∨
    (c.failure? output.ending (outputText output) = none ∧ ¬ Matches c.warnWhen (outputText output) ∧
      c.judge output duration = (CheckResult.passed c.id duration).withOutput (outputText output)) := by
  unfold judge
  cases failure : c.failure? output.ending (outputText output) with
  | some error => exact .inl ⟨error, rfl, by simp only [failure]⟩
  | none =>
    by_cases warns : Matches c.warnWhen (outputText output)
    · exact .inr (.inl ⟨rfl, warns, by simp only [failure, matches_iff.mpr warns, if_true]⟩)
    · exact .inr (.inr ⟨rfl, warns, by
      simp only [failure, mt matches_iff.mp warns, Bool.false_eq_true, if_false]⟩)

/-- A finished process is judged by its number. -/
theorem judges_judge (c : CommandGate) (output : ProcessOutput) (duration : Duration) :
    c.Judges c.TakenAsExpected output (c.judge output duration) := by
  obtain ⟨error, failure, judged⟩ | ⟨failure, warns, judged⟩ | ⟨failure, quiet, judged⟩ := c.judge_cases output duration
  · have against : ¬ c.TakenAsExpected output.ending ∨ Matches c.failWhen (outputText output) := by
      have some : c.failure? output.ending (outputText output) ≠ none := by simp [failure]
      rwa [Ne, failure?_eq_none_iff, not_and_or, not_not] at some
    have notMet (taken : c.TakenAsExpected output.ending) (clean : ¬ Matches c.failWhen (outputText output)) : False :=
      against.elim (· taken) clean
    rw [judged]
    exact ⟨rfl, rfl, iff_of_true rfl against, iff_of_false nofun fun ⟨taken, clean, _⟩ => notMet taken clean,
      iff_of_false nofun fun ⟨taken, clean, _⟩ => notMet taken clean, iff_of_true rfl rfl, rfl⟩
  · obtain ⟨taken, clean⟩ := failure?_eq_none_iff.mp failure
    rw [judged]
    exact ⟨rfl, rfl, iff_of_false nofun fun against => against.elim (· taken) clean,
      iff_of_true rfl ⟨taken, clean, warns⟩, iff_of_false nofun fun ⟨_, _, quiet⟩ => quiet warns, iff_of_false nofun nofun,
      rfl⟩
  · obtain ⟨taken, clean⟩ := failure?_eq_none_iff.mp failure
    rw [judged]
    exact ⟨rfl, rfl, iff_of_false nofun fun against => against.elim (· taken) clean,
      iff_of_false nofun fun ⟨_, _, warns⟩ => quiet warns, iff_of_true rfl ⟨taken, clean, quiet⟩, iff_of_false nofun nofun,
      rfl⟩

/-- Which ends are expected makes no difference if the output matches the pattern for failures. -/
theorem Judges.congr {expected expected' : ExitState → Prop} {r : CheckResult} (judges : c.Judges expected output r)
    (same : ¬ Matches c.failWhen r.output → (expected output.ending ↔ expected' output.ending)) :
    c.Judges expected' output r := by
  obtain ⟨check, text, failed, warned, passed, error, advice⟩ := judges
  by_cases found : Matches c.failWhen r.output
  · simp only [found, or_true, not_true, false_and, and_false] at failed warned passed
    exact ⟨check, text, by simp only [failed, found, or_true], by simp only [warned, found, not_true, false_and, and_false],
      by simp only [passed, found, not_true, false_and, and_false], error, advice⟩
  · rw [same found] at failed warned passed
    exact ⟨check, text, failed, warned, passed, error, advice⟩

/-- What is expected can be read off the judgement, unless the output matches the pattern for failures anyway. -/
theorem Judges.expected_iff {expected : ExitState → Prop} {r : CheckResult} (judges : c.Judges expected output r)
    (clean : ¬ Matches c.failWhen r.output) : expected output.ending ↔ r.verdict ≠ .failed := by
  rw [Ne, judges.failed, or_iff_left clean, not_not]

/-- **A finished process is judged by the number of its end.** The judgement is the one that is told exactly if it is not
that of a killed program of which -1 is expected and whose output is not in its way. The evaluation gives it for every
process that finishes. -/
theorem judged_by_number (c : CommandGate) (output : ProcessOutput) (duration : Duration) :
    c.Judges c.TakenAsExpected output (c.judge output duration) ∧
      (c.Judges c.EndsAsExpected output (c.judge output duration) ↔
        ∀ signal, output.ending = .signal signal → c.expectedCode = -1 → Matches c.failWhen (outputText output)) ∧
      (∀ project millis after, Process.start project c.program c.args c.timeLimit = (.finished output millis, after) →
        c.evaluate project = (.done (c.judge output (.ofMillis millis)), after)) := by
  have judges := c.judges_judge output duration
  have written : (c.judge output duration).output = outputText output := judges.text
  refine ⟨judges, ⟨fun told signal killed minusOne => ?_, fun covered => ?_⟩, fun project millis after finished => ?_⟩
  · -- by its number the process has met the gate, which no process does that is killed
    by_contra clean
    rw [← written] at clean
    have taken : c.TakenAsExpected output.ending := .inr ⟨⟨signal, killed⟩, minusOne⟩
    obtain ⟨code, ended, _⟩ := (told.expected_iff clean).mpr ((judges.expected_iff clean).mp taken)
    rw [killed] at ended
    cases ended
  · refine judges.congr fun clean => ⟨fun taken => ?_, .inl⟩
    rw [written] at clean
    obtain ended | ⟨⟨signal, killed⟩, minusOne⟩ := taken
    · exact ended
    · exact absurd (covered signal killed minusOne) clean
  · simp only [evaluate, finished]

/-- A gate that expects -1, which no program exits with. -/
def unexitable : CommandDraft :=
  { CommandDraft.ofId ⟨"general", "crash"⟩ with
      program := "sh", args := ["-c", "kill -9 $$"], expectedCode := -1, advice := some "look for the core" }

/-- The gate that expects -1 is made as it is drafted, and a killed program meets it. -/
theorem killed_program_passes :
    ∃ c, unexitable.toGate = .ok c ∧ c.expectedCode = -1 ∧
      (c.judge ⟨.signal 9, [], []⟩ .zero).verdict = .passed ∧ ¬ c.EndsAsExpected (.signal 9) ∧
      ¬ c.Judges c.EndsAsExpected ⟨.signal 9, [], []⟩ (c.judge ⟨.signal 9, [], []⟩ .zero) := by
  refine ⟨_, rfl, rfl, rfl, nofun, fun told => ?_⟩
  obtain ⟨⟨code, ended, _⟩, _⟩ := told.passed.mp rfl
  cases ended

end GateRunner.CommandGate
