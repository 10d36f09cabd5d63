import GateRunner.Check.Worker
import GateRunner.Schedule.State
import Mathlib.Data.Option.Basic

/-!
# What becomes of the calls into a check

A worker calls into a check up to three times. It has the check evaluate the project, before that it has it mend the
project if that is wanted and offered, and beside these two it has the extent measured. Each call may end with a value,
with an error or with a crash, whatever became of the others, and each meets the project as the call before it has left
it, be that a call into this check or into another (`Threads`).

An `Invocation` is the whole of a worker's work on a check. It says which calls there are, in what order (`Work.Made`),
and what goes on record for each way in which they end (`Work.Reports`); `BoundCheck.invocation` is the one that
`BoundCheck.evaluate` computes.

**The law** (`Invocation.fixed_iff`, `Invocation.extent_iff`): that the project was mended and what extent was measured
are both on record, unless the evaluation crashed. After a crash neither is.
-/

namespace GateRunner

/-! ## Calls -/

/-- What a check is called for. -/
inductive Request
  | measure
  | fix
  | evaluate
deriving DecidableEq, Repr

/-- A call into a check, with the project that it meets. -/
structure CheckCall where
  unit : BoundCheck
  request : Request
  met : Project

/-- The project that a call leaves. -/
def CheckCall.left (call : CheckCall) : Project :=
  match call.request with
  | .measure => call.met
  | .fix => (call.unit.check.fix call.met).2
  | .evaluate => (call.unit.check.evaluate call.met).2

/-- Calls were made one after the other, from one project to another: each meets what the one before it has left. -/
inductive Threads (root : Project) : List CheckCall → Project → Prop
  | nothing : Threads root [] root
  | next {calls : List CheckCall} {last : Project} (before : Threads root calls last) (call : CheckCall)
      (meets : call.met = last) : Threads root (calls ++ [call]) call.left

/-- What the calls write down on a project is found there in the end, in their order. -/
theorem Threads.written {α : Type} {root last : Project} {calls : List CheckCall} (threads : Threads root calls last)
    {log : Project → List α} {entry : CheckCall → List α}
    (writes : ∀ call ∈ calls, log call.left = log call.met ++ entry call) :
    log last = log root ++ calls.flatMap entry := by
  induction threads with
  | nothing => exact (List.append_nil _).symm
  | next before call meets ih =>
    rw [writes call (List.mem_append_right _ List.mem_cons_self), meets,
      ih fun other mem => writes other (List.mem_append_left _ mem), List.append_assoc, List.flatMap_append,
      List.flatMap_singleton]

/-! ## Invocations -/

/-- The work of a worker on a check that it was handed: the projects that its calls met, the calls in their order, the
time that went by, and the result. -/
structure Work where
  unit : BoundCheck
  fixFirst : Bool
  /-- The project that is measured. -/
  examined : Project
  /-- The project that remediation meets, if it is tried. -/
  begun : Project
  /-- The project that the evaluation meets. -/
  met : Project
  calls : List CheckCall
  /-- The time of the evaluation. -/
  took : Duration
  /-- The time from the beginning to the end of the evaluation. -/
  whole : Duration
  result : CheckResult

namespace Work

/-- Remediation is wanted and offered. -/
def Tried (v : Work) : Prop := v.fixFirst = true ∧ v.unit.check.offersFix = true

instance (v : Work) : Decidable v.Tried := inferInstanceAs (Decidable (_ ∧ _))

/-- Remediation was tried and said that it changed something. -/
def Mended (v : Work) : Prop := v.Tried ∧ (v.unit.check.fix v.begun).1 = .done true

/-- This extent was measured. -/
def Measured (v : Work) (extent : Extent) : Prop := v.unit.check.measure v.examined = .done (some extent)

/-- The evaluation crashed. -/
def Crashed (v : Work) : Prop := ∃ message, (v.unit.check.evaluate v.met).1 = .crashed message

/-- The calls that are due were made: one evaluation, before it one remediation if that is wanted and offered, and one
measurement at some time. -/
structure Made (v : Work) : Prop where
  measured : v.calls.filter (·.request = .measure) = [⟨v.unit, .measure, v.examined⟩]
  others : v.calls.filter (·.request ≠ .measure) =
    if v.Tried then [⟨v.unit, .fix, v.begun⟩, ⟨v.unit, .evaluate, v.met⟩] else [⟨v.unit, .evaluate, v.met⟩]

/-- The result is what the ways in which the calls ended give. -/
structure Reports (v : Work) : Prop where
  /-- A result is kept under the id of the check, but for the flag and the extent. -/
  done : ∀ own, (v.unit.check.evaluate v.met).1 = .done own →
    v.result = { own with check := v.unit.id, fixed := v.result.fixed, extent := v.result.extent } ∧
    (v.result.fixed = true ↔ own.fixed = true ∨ v.Mended) ∧
    ∀ extent, v.result.extent = some extent ↔ own.extent = some extent ∨ own.extent = none ∧ v.Measured extent
  /-- An error is reported with all its descriptions and the time of the evaluation. -/
  failed : ∀ chain, (v.unit.check.evaluate v.met).1 = .failed chain →
    v.result = {
      check := v.unit.id, verdict := .error, duration := v.took, output := "", error := some (": ".intercalate chain),
      advice := none, fixed := v.result.fixed, omission := none, extent := v.result.extent } ∧
    (v.result.fixed = true ↔ v.Mended) ∧ ∀ extent, v.result.extent = some extent ↔ v.Measured extent
  /-- A crash is reported with its message and the whole time, and with nothing from before it. -/
  crashed : ∀ message, (v.unit.check.evaluate v.met).1 = .crashed message →
    v.result = {
      check := v.unit.id, verdict := .error, duration := v.whole, output := "",
      error := some ("check panicked: " ++ message.getD "unknown panic"),
      advice := none, fixed := false, omission := none, extent := none }

end Work

/-- What a worker does for a check that it was handed, as it has to be. -/
structure Invocation extends Work where
  made : toWork.Made
  reports : toWork.Reports

namespace Invocation

variable {v : Invocation}

/-- What was handed over. -/
def job (v : Invocation) : BoundCheck × Bool := (v.unit, v.fixFirst)

/-- What the worker answers. -/
def answer (v : Invocation) : Completion := ⟨v.unit.id, v.result⟩

/-- The result is under the id of the check. -/
theorem check_result (v : Invocation) : v.result.check = v.unit.id := by
  cases ended : (v.unit.check.evaluate v.met).1 with
  | done own => rw [(v.reports.done own ended).1]
  | failed chain => rw [(v.reports.failed chain ended).1]
  | crashed message => rw [v.reports.crashed message ended]

/-- **That the project was mended is on record exactly when the evaluation did not crash.** -/
theorem fixed_iff (mended : v.Mended) : v.result.fixed = true ↔ ¬ v.Crashed := by
  cases ended : (v.unit.check.evaluate v.met).1 with
  | done own => simp [(v.reports.done own ended).2.1, mended, Work.Crashed, ended]
  | failed chain => simp [(v.reports.failed chain ended).2.1, mended, Work.Crashed, ended]
  | crashed message => simp [v.reports.crashed message ended, Work.Crashed, ended]

/-- **The extent that was measured is on record exactly when the evaluation did not crash**, unless the evaluation gave
one of its own. -/
theorem extent_iff {extent : Extent} (measured : v.Measured extent)
    (none : ∀ own, (v.unit.check.evaluate v.met).1 = .done own → own.extent = none) :
    v.result.extent = some extent ↔ ¬ v.Crashed := by
  cases ended : (v.unit.check.evaluate v.met).1 with
  | done own => simp [(v.reports.done own ended).2.2, none own ended, measured, Work.Crashed, ended]
  | failed chain => simp [(v.reports.failed chain ended).2.2, measured, Work.Crashed, ended]
  | crashed message => simp [v.reports.crashed message ended, Work.Crashed, ended]

/-- Remediation that is wanted and offered is among the calls. -/
theorem fix_mem (tried : v.Tried) : ⟨v.unit, .fix, v.begun⟩ ∈ v.calls := by
  have others := v.made.others
  rw [if_pos tried] at others
  exact (List.mem_filter.mp (others ▸ List.mem_cons_self)).1

/-- All calls are into the check. -/
theorem unit_of_mem {call : CheckCall} (mem : call ∈ v.calls) : call.unit = v.unit := by
  by_cases measures : call.request = .measure
  · have found : call ∈ v.calls.filter (·.request = .measure) := List.mem_filter.mpr ⟨mem, decide_eq_true measures⟩
    rw [v.made.measured, List.mem_singleton] at found
    exact congrArg CheckCall.unit found
  · have found : call ∈ v.calls.filter (·.request ≠ .measure) := List.mem_filter.mpr ⟨mem, decide_eq_true measures⟩
    rw [v.made.others] at found
    split at found
    · simp only [List.mem_cons, List.not_mem_nil, or_false] at found
      rcases found with rfl | rfl <;> rfl
    · exact congrArg CheckCall.unit (List.mem_singleton.mp found)

end Invocation

/-! ## The work that is computed -/

namespace BoundCheck

variable (i : BoundCheck) (fixFirst : Bool) (begun met : Project)

/-- Whether remediation that comes first, if any does, says that it changed anything. -/
def changes : Bool := i.attemptsFix fixFirst && (i.remediate begun).1

/-- The milliseconds that remediation takes, if it comes first. -/
def spent : Nat := if i.attemptsFix fixFirst then i.check.fixMillis else 0

/-- The calls before the evaluation. -/
def opening : List CheckCall :=
  ⟨i, .measure, begun⟩ :: if i.attemptsFix fixFirst then [⟨i, .fix, begun⟩] else []

/-- The work on a check that is begun on one project and evaluated on another. -/
def work : Work :=
  { unit := i, fixFirst, examined := begun, begun, met, calls := i.opening fixFirst begun ++ [⟨i, .evaluate, met⟩],
    took := i.evaluationTime, whole := i.workTime (i.spent fixFirst),
    result := (i.evaluate (i.changes fixFirst begun) (i.measuredExtent begun) (i.spent fixFirst) met).1 }

variable {i fixFirst begun met}

theorem tried_work_iff : (i.work fixFirst begun met).Tried ↔ i.attemptsFix fixFirst = true :=
  Bool.and_eq_true_iff.symm

theorem mended_work_iff : (i.work fixFirst begun met).Mended ↔ i.changes fixFirst begun = true := by
  rw [Work.Mended, tried_work_iff, changes, Bool.and_eq_true]
  refine and_congr_right fun _ => ?_
  show (i.check.fix begun).1 = .done true ↔ (i.remediate begun).1 = true
  unfold remediate
  rcases i.check.fix begun with ⟨_ | _ | _, after⟩ <;> simp

theorem measured_work_iff {extent : Extent} :
    (i.work fixFirst begun met).Measured extent ↔ i.measuredExtent begun = some extent := by
  show i.check.measure begun = .done (some extent) ↔ i.measuredExtent begun = some extent
  unfold measuredExtent
  cases i.check.measure begun <;> simp

theorem made_work : (i.work fixFirst begun met).Made := by
  have wanted := @tried_work_iff i fixFirst begun met
  cases tried : i.attemptsFix fixFirst with
  | true =>
    refine ⟨by simp [work, opening, tried], ?_⟩
    rw [if_pos (wanted.mpr tried)]
    simp [work, opening, tried]
  | false =>
    refine ⟨by simp [work, opening, tried], ?_⟩
    rw [if_neg fun due => Bool.false_ne_true (tried.symm.trans (wanted.mp due))]
    simp [work, opening, tried]

/-- What the evaluation ends with decides what goes on record. -/
theorem result_work : (i.work fixFirst begun met).result =
    match (i.check.evaluate met).1 with
    | .done own => i.onRecord (i.changes fixFirst begun) (i.measuredExtent begun) own
    | .failed chain => i.onRecord (i.changes fixFirst begun) (i.measuredExtent begun)
        (.errored i.id i.evaluationTime (chainText chain))
    | .crashed message => .errored i.id (i.workTime (i.spent fixFirst)) (crashMessage message) := by
  show (i.evaluate _ _ _ met).1 = _
  rw [evaluate]
  rcases i.check.evaluate met with ⟨_ | _ | _, after⟩ <;> rfl

theorem reports_work : (i.work fixFirst begun met).Reports := by
  have result := @result_work i fixFirst begun met
  refine ⟨fun own ended => ?_, fun chain ended => ?_, fun message ended => ?_⟩
  · rw [show (i.check.evaluate met).1 = _ from ended] at result
    rw [result]
    refine ⟨rfl, ?_, fun extent => ?_⟩
    · rw [mended_work_iff]
      exact Bool.or_eq_true_iff
    · rw [measured_work_iff]
      exact Option.orElse_eq_some ..
  · rw [show (i.check.evaluate met).1 = _ from ended] at result
    rw [result]
    exact ⟨rfl, mended_work_iff.symm, fun extent => measured_work_iff.symm⟩
  · rw [show (i.check.evaluate met).1 = _ from ended] at result
    exact result

/-- The work on a check, as an invocation. -/
def invocation (i : BoundCheck) (fixFirst : Bool) (begun met : Project) : Invocation :=
  ⟨i.work fixFirst begun met, made_work, reports_work⟩

end BoundCheck

end GateRunner
