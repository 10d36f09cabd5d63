import GateRunner.Check.Scripted
import GateRunner.Proofs.Schedule.History
import GateRunner.Proofs.Schedule.Reachable

/-!
# Workers that follow a schedule

A schedule says in advance which checks finish at each wait, as a list of batches. `Workers.replay` are workers that
keep to it, as far as it names checks in flight; where it names none, all that is in flight finishes. Their checks come
out as a function says.

**The law** (`diligent_replay`, `faithful_replay`): such workers always answer, and as they are told. So what holds of
all workers that answer holds of every order and every grouping of completions that can be written down.
-/

namespace GateRunner

namespace Workers

variable {outcome : CheckId → CheckResult}

/-- The checks in flight that a batch names, or all of them. -/
def finishing (batch inFlight : List CheckId) : List CheckId :=
  if batch.filter (· ∈ inFlight) = [] then inFlight else batch.filter (· ∈ inFlight)

/-- Workers that let checks finish as a schedule says, one batch at each wait. -/
def replay (outcome : CheckId → CheckResult) : Workers (List (List CheckId)) where
  observe batches _ := batches
  start batches _ _ := batches
  await batches inFlight :=
    ((finishing (batches.headD []) inFlight).map fun id => ⟨id, outcome id⟩, batches.tail)
  elapsed _ := .zero

theorem finishing_subset (batch inFlight : List CheckId) : finishing batch inFlight ⊆ inFlight := by
  intro id hid
  unfold finishing at hid
  split at hid
  · exact hid
  · exact of_decide_eq_true (List.mem_filter.mp hid).2

theorem finishing_ne_nil (batch : List CheckId) {inFlight : List CheckId} (busy : inFlight ≠ []) :
    finishing batch inFlight ≠ [] := by
  unfold finishing
  split
  · exact busy
  · assumption

/-- Workers that follow a schedule always answer. -/
theorem exists_answer_replay (batches : List (List CheckId)) {inFlight : List CheckId} (busy : inFlight ≠ []) :
    ∃ c ∈ ((replay outcome).await batches inFlight).1, c.id ∈ inFlight := by
  obtain ⟨id, hid⟩ := List.exists_mem_of_ne_nil _ (finishing_ne_nil (batches.headD []) busy)
  exact ⟨⟨id, outcome id⟩, List.mem_map.mpr ⟨id, hid, rfl⟩, finishing_subset _ _ hid⟩

variable {jobs : List (BoundCheck × Bool)} {start : List (List CheckId)}

theorem diligent_replay : (replay outcome).Diligent jobs start := fun _ _ _ batches _ _ busy =>
  exists_answer_replay batches busy

/-- Their checks come out as they are told. -/
theorem faithful_replay : (replay outcome).Faithful jobs start outcome := by
  intro given answers inFlight batches _ _ c hc
  obtain ⟨id, _, rfl⟩ := List.mem_map.mp hc
  rfl

theorem responsive_replay {a : Assignment} {first : ScheduleState} :
    ScheduleState.Responsive (replay outcome) a first start := fun batches _ waits =>
  exists_answer_replay batches waits.ne_nil

end Workers

/-! ## A gate to try things on

Six checks of a Python project. Linting and typing wait for the format, the tests for both of these, the documentation
for the types; the audit does not apply. Linting fails. -/

namespace SampleGate

def outcome (id : CheckId) : CheckResult :=
  if id.name = "lint" then .failed id .zero "unused import" else .passed id .zero

def script (name : String) (dependencies : List String) (applicable : Bool) : CheckScript :=
  { id := ⟨"python", name⟩, title := name, dependencies := dependencies.map (⟨"python", ·⟩), applicable,
    whyNot := Check.defaultWhyNot, extent := .done none, outcome := .done (outcome ⟨"python", name⟩),
    evaluateMillis := 0, fix := none, fixMillis := 0 }

def scripts : List CheckScript :=
  [script "format" [] true, script "lint" ["format"] true, script "types" ["format"] true,
    script "tests" ["lint", "types"] true, script "docs" ["types"] true, script "audit" [] false]

def units : List BoundCheck := scripts.map fun s => .ofCheck s.toCheck

theorem distinct_reversed : (units.reverse.map (·.id)).Nodup := by decide

/-- A schedule in which linting finishes before typing, or after it. -/
def batches (lintFirst : Bool) : List (List CheckId) :=
  [[⟨"python", "format"⟩], [⟨"python", if lintFirst then "lint" else "types"⟩]]

theorem diligent (lintFirst : Bool) {jobs : List (BoundCheck × Bool)} :
    (Workers.replay outcome).Diligent jobs (batches lintFirst) := Workers.diligent_replay

theorem faithful (lintFirst : Bool) {jobs : List (BoundCheck × Bool)} :
    (Workers.replay outcome).Faithful jobs (batches lintFirst) outcome := Workers.faithful_replay

end SampleGate

end GateRunner
