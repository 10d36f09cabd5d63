import GateRunner.Proofs.Run.Honesty
import GateRunner.Proofs.Run.Sight

/-!
# The invocation of a check

A check that is handed to a worker is invoked once. Remediation is called if it is wanted and offered, and then the
evaluation, whatever became of the calls before it; one answer comes of this, under the id of the check that was handed
over, and it is what the ways in which the calls ended give (`Work.Reports`). Calls into other checks may come in
between and change the project: each call meets it as the one before, whosever it was, has left it.

How often a check is called can be told from outside as well. If each check writes down on the project which call it is,
then in the end the project has just these calls on it, one after the other (`CarriedOut.written`), and those of a check
that shares its id with no other are remediation, if it is due, and then one evaluation (`CarriedOut.filter_notes`).

**The law** (`invoked_once_each`): on the virtual clock this holds of all that was handed over, after a wait for each
check. In a run of any workers that carry out what they are handed, there is one invocation for each start, the calls
lead on from the project of the run, and the summary has the result of an invocation for each check that has started.
-/

namespace GateRunner

/-! ## Calls told from outside -/

/-- The calls into a check that are noted. -/
def BoundCheck.program (i : BoundCheck) (fixFirst : Bool) : List Note :=
  if fixFirst && i.check.offersFix then [.fixing i.id, .executing i.id] else [.executing i.id]

/-- A check that writes down, on the project, each call that may change it. -/
def BoundCheck.KeepsLog (i : BoundCheck) (log : Project → List Note) : Prop :=
  ∀ project, log (i.check.fix project).2 = log project ++ [.fixing i.id] ∧
    log (i.check.evaluate project).2 = log project ++ [.executing i.id]

theorem BoundCheck.KeepsLog.log_left {call : CheckCall} {log : Project → List Note} (keeps : call.unit.KeepsLog log) :
    log call.left = log call.met ++ call.note?.toList := by
  obtain ⟨unit, request, met⟩ := call
  cases request with
  | measure => exact (List.append_nil _).symm
  | fix => exact (keeps met).1
  | evaluate => exact (keeps met).2

/-- Of the calls of an invocation, all but the measurement are noted. -/
theorem Invocation.filterMap_note? (v : Invocation) : v.calls.filterMap CheckCall.note? = v.unit.program v.fixFirst := by
  have noted : v.calls.filterMap CheckCall.note? = (v.calls.filter (·.request ≠ .measure)).filterMap CheckCall.note? := by
    rw [List.filterMap_filter]
    refine List.filterMap_congr fun call _ => ?_
    obtain ⟨unit, request, met⟩ := call
    cases request <;> rfl
  rw [noted, v.made.others, BoundCheck.program]
  by_cases tried : v.Tried
  · rw [if_pos tried, if_pos (Bool.and_eq_true_iff.mpr tried)]
    rfl
  · rw [if_neg tried, if_neg fun due => tried (Bool.and_eq_true_iff.mp due)]
    rfl

namespace CarriedOut

variable {root last : Project} {given : List (BoundCheck × Bool)} {answers : List Completion}
  {invocations : Multiset Invocation} {journal : List CheckCall}
  (carriedOut : CarriedOut root given answers invocations journal last)
include carriedOut

/-- Each invocation is of a check that was handed over. -/
theorem job_mem {v : Invocation} (mem : v ∈ invocations) : v.job ∈ given :=
  Multiset.mem_coe.mp (carriedOut.jobs ▸ Multiset.mem_map_of_mem _ mem)

/-- Each call is into a check that was handed over. -/
theorem exists_job {call : CheckCall} (mem : call ∈ journal) : ∃ q ∈ given, call.unit = q.1 := by
  obtain ⟨_, among, own⟩ := carriedOut.shuffled.exists_part mem
  obtain ⟨v, invoked, rfl⟩ := Multiset.mem_map.mp among
  exact ⟨v.job, carriedOut.job_mem invoked, v.unit_of_mem own⟩

/-- **What checks write down of the calls into them is all the calls, in their order.** -/
theorem written {log : Project → List Note} (keeps : ∀ q ∈ given, q.1.KeepsLog log) :
    log last = log root ++ journal.filterMap CheckCall.note? := by
  have written := carriedOut.threaded.written fun call mem => by
    obtain ⟨q, handed, unit⟩ := carriedOut.exists_job mem
    exact (unit ▸ keeps q handed : call.unit.KeepsLog log).log_left
  rw [written, List.filterMap_eq_flatMap_toList]

/-- **The calls into a check that shares its id with no other are its own.** -/
theorem filter_notes {i : BoundCheck} {fixFirst : Bool} (mem : (i, fixFirst) ∈ given)
    (only : given.countP (·.1.id = i.id) = 1) :
    (journal.filterMap CheckCall.note?).filter (·.check? = some i.id) = i.program fixFirst := by
  rw [← Multiset.mem_coe, ← carriedOut.jobs] at mem
  obtain ⟨v, invoked, job⟩ := Multiset.mem_map.mp mem
  obtain ⟨rfl, rfl⟩ := Prod.mk.inj job
  obtain ⟨rest, split⟩ := Multiset.exists_cons_of_mem invoked
  have shuffled := carriedOut.shuffled
  have jobs := carriedOut.jobs
  rw [split, Multiset.map_cons] at shuffled jobs
  rw [← Multiset.coe_countP, ← jobs,
    Multiset.countP_cons_of_pos (p := fun q : BoundCheck × Bool => q.1.id = v.unit.id) _ rfl, Nat.succ_inj,
    Multiset.countP_eq_zero] at only
  have own : journal.filter (fun call => call.unit.id = v.unit.id) = v.calls := by
    refine shuffled.filter_eq (fun call mem => decide_eq_true (congrArg BoundCheck.id (v.unit_of_mem mem))) ?_
    intro other among call mem
    obtain ⟨v', invoked', rfl⟩ := Multiset.mem_map.mp among
    exact decide_eq_false fun same =>
      only v'.job (Multiset.mem_map_of_mem _ invoked') ((congrArg BoundCheck.id (v'.unit_of_mem mem)).symm.trans same)
  rw [← v.filterMap_note?, ← own, List.filter_filterMap, List.filterMap_filter]
  refine List.filterMap_congr fun call _ => ?_
  obtain ⟨unit, request, met⟩ := call
  cases request <;> by_cases same : unit.id = v.unit.id <;> simp [CheckCall.note?, Note.check?, same]

end CarriedOut

/-! ## Waiting for all -/

namespace Clock

variable {project : Project} {given : List (BoundCheck × Bool)} {answers : List Completion} {inFlight : List CheckId}
  {c : Clock}

/-- The answers of so many waits, and the clock after them. -/
def waits : Nat → Clock → List Completion × Clock
  | 0, c => ([], c)
  | n + 1, c => (c.await.1 ++ (waits n c.await.2).1, (waits n c.await.2).2)

/-- A wait leaves less in flight, if anything is. -/
theorem length_diff_await (history : Workers.History workers (atZero project) given answers inFlight c) :
    (inFlight.diff (c.await.1.map (·.id))).length ≤ inFlight.length - 1 := by
  by_cases idle : inFlight = []
  · rw [idle, List.nil_diff, List.length_nil, Nat.zero_sub]
  · have before := length_of_history history
    have after := length_of_history history.waited
    have some : 0 < (workers.await c inFlight).1.length := List.length_pos_iff.mpr (await_ne_nil history idle)
    rw [List.length_append] at after
    show (inFlight.diff ((workers.await c inFlight).1.map (·.id))).length ≤ _
    omega

/-- With each wait less is in flight. -/
theorem history_waits (history : Workers.History workers (atZero project) given answers inFlight c) (n : Nat) :
    ∃ left, left.length ≤ inFlight.length - n ∧
      Workers.History workers (atZero project) given (answers ++ (c.waits n).1) left (c.waits n).2 := by
  induction n generalizing answers inFlight c with
  | zero => exact ⟨inFlight, Nat.le_refl _, by simpa [waits] using history⟩
  | succ n ih =>
    obtain ⟨left, fewer, history'⟩ := ih history.waited
    have first := length_diff_await history
    refine ⟨left, ?_, by rw [waits, ← List.append_assoc]; exact history'⟩
    exact fewer.trans (Nat.le_trans (Nat.sub_le_sub_right first n) (by omega))

/-- **With a wait for each check that was handed over, nothing is in flight any more.** -/
theorem history_waits_all (history : Workers.History workers (atZero project) given answers inFlight c) :
    Workers.History workers (atZero project) given (answers ++ (c.waits given.length).1) [] (c.waits given.length).2 := by
  obtain ⟨left, fewer, history'⟩ := history_waits history given.length
  have length := length_of_history history
  rwa [List.length_eq_zero_iff.mp (by omega : left.length = 0)] at history'

end Clock

/-! ## In a run -/

/-- Each check that has started in a run was invoked once, on the project as it then was, and the summary has what came
of it. -/
structure RunReport.Invoked {σ : Type} (report : RunReport σ) (g : Registry) (project : Project) (config : Configuration)
    (names : List String) (switches : RunSwitches) (summary : RunSummary) (invocations : Multiset Invocation)
    (journal : List CheckCall) (last : Project) : Prop where
  /-- There is one for each start. -/
  once : invocations.map (·.unit.id) = ↑(report.trace.filterMap Event.started?)
  scheduled : ∀ v ∈ invocations, v.unit ∈ g.scheduled project config names ∧ v.fixFirst = switches.fixFirst
  shuffled : Shuffle (invocations.map (·.calls)) journal
  threaded : Threads project journal last
  recorded : ∀ id, .started id ∈ report.trace → ∃ v ∈ invocations, v.unit.id = id ∧ summary.result? id = some v.result

/-- The checks that apply are among those that are on. -/
theorem mem_order_of_mem_scheduled {g : Registry} {project : Project} {config : Configuration} {names : List String}
    {id : CheckId} (mem : id ∈ (g.scheduledGraph project config names).order) :
    id ∈ (g.switchedOn config names).map (·.id) := by
  rw [order_scheduledGraph] at mem
  exact (List.filter_sublist.map _).subset mem

/-- In a run that ends with a summary, honest workers have invoked each check that has started. -/
theorem exists_invoked {σ : Type} {w : Workers σ} {g : Registry} {limit : SlotLimit} {project : Project}
    {config : Configuration} {names : List String} {switches : RunSwitches} {world : σ} (honest : w.Honest project world)
    {summary : RunSummary} (ended : (runNamed w g limit project config names switches world).outcome = .ok summary) :
    ∃ invocations journal last, (runNamed w g limit project config names switches world).Invoked g project config names
      switches summary invocations journal last := by
  obtain ⟨announced, handed, answers, seen, last, sight⟩ := exists_sight w g limit project config names switches world
  obtain ⟨_, none, idle, results⟩ := sight.ended summary ended
  obtain ⟨invocations, journal, left, carriedOut⟩ := honest _ _ _ (idle ▸ sight.chronicle.history)
  refine ⟨invocations, journal, left, ?_, fun v mem => ?_, carriedOut.shuffled, carriedOut.threaded, fun id started => ?_⟩
  · have ids := congrArg (Multiset.map (·.1.id)) carriedOut.jobs
    rw [Multiset.map_map, Multiset.map_coe, sight.chronicle.starts, ← sight.started?] at ids
    exact ids
  · obtain ⟨i, scheduled, job⟩ := List.mem_map.mp (sight.chronicle.own (carriedOut.job_mem mem))
    obtain ⟨unit, fixFirst⟩ := Prod.mk.inj job
    exact ⟨unit ▸ scheduled, fixFirst.symm⟩
  · have started' : .started id ∈ seen := by
      rw [← mem_filterMap_started?, ← sight.started?, mem_filterMap_started?]
      exact started
    obtain ⟨c, answer, rfl, found⟩ := sight.tally.answered none idle started'
    have answer' : c ∈ invocations.map Invocation.answer := carriedOut.answers ▸ Multiset.mem_coe.mpr answer
    obtain ⟨v, invoked, rfl⟩ := Multiset.mem_map.mp answer'
    have recorded : v.result.under v.unit.id = v.result := v.check_result ▸ rfl
    refine ⟨v, invoked, rfl, ?_⟩
    rw [RunSummary.result?, results, ← recorded]
    exact find?_orderedResults (mem_order_of_mem_scheduled (sight.tally.mem_order started')) (resultOf?_of_executed found)

/-- **Each check that is handed over is invoked once, and one result comes of it, whatever its calls end with.** -/
theorem invoked_once_each :
    (∀ project given answers inFlight c,
      Workers.History Clock.workers (Clock.atZero project) given answers inFlight c →
      let after := c.waits given.length
      (∃ invocations journal, CarriedOut project given (answers ++ after.1) invocations journal after.2.project ∧
        ∀ v ∈ invocations, v.OnTime) ∧
      (∀ i fixFirst, (i, fixFirst) ∈ given → given.countP (·.1.id = i.id) = 1 →
        after.2.calls.filter (·.check? = some i.id) =
          if fixFirst && i.check.offersFix then [.fixing i.id, .executing i.id] else [.executing i.id]) ∧
      ∀ log, (∀ q ∈ given, q.1.KeepsLog log) → log after.2.project = log project ++ after.2.calls) ∧
    ∀ {σ : Type} (w : Workers σ) (g : Registry) (limit : SlotLimit) (project : Project) (config : Configuration)
      (names : List String) (switches : RunSwitches) (world : σ), w.Honest project world →
      let report := runNamed w g limit project config names switches world
      ∀ summary, report.outcome = .ok summary →
        ∃ invocations journal last,
          report.Invoked g project config names switches summary invocations journal last := by
  refine ⟨fun project given answers inFlight c history => ?_, fun _ _ _ _ _ _ _ _ honest _ ended =>
    exists_invoked honest ended⟩
  obtain ⟨invocations, journal, carriedOut, noted, onTime⟩ :=
    Clock.exists_carriedOut (Clock.history_waits_all history)
  exact ⟨⟨invocations, journal, carriedOut, onTime⟩, fun i fixFirst mem only => noted ▸ carriedOut.filter_notes mem only,
    fun log keeps => noted ▸ carriedOut.written keeps⟩

namespace SampleGate

/-- A check that mends the project, which takes some time, and examines three files. -/
def mendingScript (name : String) (outcome : Attempt CheckResult) : CheckScript :=
  { script name [] true with extent := .done (some ⟨3, 40⟩), outcome, fix := some (.done true), fixMillis := 5 }

/-- Formatting whose evaluation crashes, and linting whose evaluation gives up with an error. -/
def mendingScripts : List CheckScript :=
  [mendingScript "format" (.crashed (some "boom")), mendingScript "lint" (.failed ["no linter"])]

def mending : Registry := .ofScripts mendingScripts

/-- What a run of both leaves behind. -/
def mended : RunReport Clock :=
  runNamed Clock.workers mending ⟨2, by decide⟩ default .default ["python:format", "python:lint"] ⟨true, false⟩
    (Clock.atZero default)

theorem mended_ok : ∃ summary, mended.outcome = .ok summary := by
  cases ended : mended.outcome with
  | error e =>
    have ok : mended.outcome.isOk = true := by decide +kernel
    rw [ended] at ok
    cases ok
  | ok summary => exact ⟨summary, rfl⟩

/-- The project with a call written down: at the top of the disk, remediation leaves a directory with the name of its
check and evaluation a file. -/
def writeDown (name : String) (entry : Entry) (project : Project) : Project :=
  { project with disk := { project.disk with top := .dir (project.disk.top.children ++ [(name, entry)]) } }

/-- The calls that are written down. -/
def written (project : Project) : List Note := project.disk.top.children.map fun e =>
  if e.2.isDir then .fixing ⟨"python", e.1⟩ else .executing ⟨"python", e.1⟩

theorem written_writeDown (name : String) (entry : Entry) (project : Project) :
    written (writeDown name entry project) = written project ++
      [if entry.isDir then .fixing ⟨"python", name⟩ else .executing ⟨"python", name⟩] := List.map_append

/-- The check of a script that writes down the calls into it. -/
def logging (s : CheckScript) : Check :=
  { s.toCheck with
    fix := fun project => (s.fix.getD (.done false), writeDown s.id.name (.dir []) project)
    evaluate := fun project => (s.outcome, writeDown s.id.name (.file [] .plain) project) }

theorem keepsLog_logging (name : String) (outcome : Attempt CheckResult) :
    (BoundCheck.ofCheck (logging (mendingScript name outcome))).KeepsLog written := fun project =>
  ⟨written_writeDown name (.dir []) project, written_writeDown name (.file [] .plain) project⟩

/-- The two checks, with remediation. -/
def handedOver : List (BoundCheck × Bool) := mendingScripts.map fun s => (.ofCheck (logging s), true)

/-- The clock that they were handed over to. -/
def handedClock : Clock := ⟨0, default, handedOver, [], []⟩

theorem handed_history : Workers.History Clock.workers (Clock.atZero default) handedOver []
    [⟨"python", "format"⟩, ⟨"python", "lint"⟩] handedClock :=
  (Workers.History.here.handed _ true).handed _ true

end SampleGate

/-- The formatting is fixed and executed once, though its evaluation crashes; the calls into the linting come in between,
and the project has all of them. -/
theorem sampleGate_invoked :
    let after := SampleGate.handedClock.waits 2
    (∃ invocations journal, CarriedOut default SampleGate.handedOver ([] ++ after.1) invocations journal
      after.2.project ∧ ∀ v ∈ invocations, v.OnTime) ∧
    after.2.calls.filter (·.check? = some ⟨"python", "format"⟩) =
      [.fixing ⟨"python", "format"⟩, .executing ⟨"python", "format"⟩] ∧
    SampleGate.written after.2.project = [.fixing ⟨"python", "format"⟩, .fixing ⟨"python", "lint"⟩,
      .executing ⟨"python", "format"⟩, .executing ⟨"python", "lint"⟩] ∧
    ∃ summary, SampleGate.mended.outcome = .ok summary ∧
      ∃ invocations journal last, SampleGate.mended.Invoked SampleGate.mending default .default
        ["python:format", "python:lint"] ⟨true, false⟩ summary invocations journal last := by
  intro after
  obtain ⟨invoked, alone, written⟩ := invoked_once_each.1 _ _ _ _ _ SampleGate.handed_history
  obtain ⟨summary, ended⟩ := SampleGate.mended_ok
  have calls : after.2.calls = [.fixing ⟨"python", "format"⟩, .fixing ⟨"python", "lint"⟩,
      .executing ⟨"python", "format"⟩, .executing ⟨"python", "lint"⟩] := by decide +kernel
  refine ⟨invoked, alone _ _ List.mem_cons_self (by decide +kernel), ?_, summary, ended,
    invoked_once_each.2 _ _ _ _ _ _ _ _ (Clock.honest default) _ ended⟩
  have all := written SampleGate.written fun q mem => by
    obtain ⟨s, hs, rfl⟩ := List.mem_map.mp mem
    simp only [SampleGate.mendingScripts, List.mem_cons, List.not_mem_nil, or_false] at hs
    rcases hs with rfl | rfl
    · exact SampleGate.keepsLog_logging _ _
    · exact SampleGate.keepsLog_logging _ _
  exact calls ▸ all

end GateRunner
