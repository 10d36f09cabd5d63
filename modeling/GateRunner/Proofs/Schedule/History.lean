import GateRunner.Schedule.Loop
import Mathlib.Data.List.Basic

/-!
# What workers have been through

Workers may answer anything, at any time. What a run relies on is asked of them only where they can get: from a state
on they hear of events, are handed checks and are asked to wait, and `Workers.History` is the relation between all this
and the state that they are then in. What is in flight follows from it: a check that is handed over is, until an answer
names it.

`Diligent` workers say of a check in flight that it has finished, whenever they are asked to wait for some. Workers are
`Faithful` to a function if their checks come out as it says. Both speak of workers that are handed certain checks only.

**The law** (`History.tell`): what the scheduler tells workers leads on in their history, with one check handed over for
each start.
-/

namespace GateRunner

/-- What a run may hand over. -/
def Assignment.jobs (a : Assignment) : List (BoundCheck × Bool) := a.units.map fun i => (i, a.fixFirst)

namespace Workers

variable {σ : Type}

/-- What workers come to from a state on, with all that they were handed and all that they answered, in order, and with
what is in flight. -/
inductive History (w : Workers σ) (start : σ) : List (BoundCheck × Bool) → List Completion → List CheckId → σ → Prop
  | here : History w start [] [] [] start
  | heard {given : List (BoundCheck × Bool)} {answers : List Completion} {inFlight : List CheckId} {world : σ}
      (before : History w start given answers inFlight world) (event : Event) :
      History w start given answers inFlight (w.observe world event)
  | handed {given : List (BoundCheck × Bool)} {answers : List Completion} {inFlight : List CheckId} {world : σ}
      (before : History w start given answers inFlight world) (i : BoundCheck) (fixFirst : Bool) :
      History w start (given ++ [(i, fixFirst)]) answers (inFlight ++ [i.id]) (w.start world i fixFirst)
  | waited {given : List (BoundCheck × Bool)} {answers : List Completion} {inFlight : List CheckId} {world : σ}
      (before : History w start given answers inFlight world) :
      History w start given (answers ++ (w.await world inFlight).1)
        (inFlight.diff ((w.await world inFlight).1.map (·.id))) (w.await world inFlight).2

/-- Workers that, handed some checks and asked to wait while any is in flight, say of one in flight that it has
finished. -/
def Diligent (w : Workers σ) (jobs : List (BoundCheck × Bool)) (start : σ) : Prop :=
  ∀ given answers inFlight world, History w start given answers inFlight world → given ⊆ jobs → inFlight ≠ [] →
    ∃ c ∈ (w.await world inFlight).1, c.id ∈ inFlight

/-- Workers that, handed some checks, have them come out as a function says. -/
def Faithful (w : Workers σ) (jobs : List (BoundCheck × Bool)) (start : σ) (outcome : CheckId → CheckResult) : Prop :=
  ∀ given answers inFlight world, History w start given answers inFlight world → given ⊆ jobs →
    ∀ c ∈ (w.await world inFlight).1, c.result = outcome c.id

variable {w : Workers σ} {start world : σ} {given : List (BoundCheck × Bool)} {answers : List Completion}
  {inFlight : List CheckId}

theorem History.foldl_observe (history : History w start given answers inFlight world) (news : List Event) :
    History w start given answers inFlight (news.foldl w.observe world) := by
  induction news generalizing world with
  | nil => exact history
  | cons event rest ih => exact ih (history.heard event)

/-- **What the scheduler tells workers leads on in their history.** For each start one check is handed over, if there is
one with that id. -/
theorem History.tell {a : Assignment} {news : List Event}
    (known : ∀ id ∈ news.filterMap Event.started?, ∃ i ∈ a.units, i.id = id)
    (history : History w start given answers inFlight world) :
    ∃ more, more ⊆ a.jobs ∧ more.map (·.1.id) = news.filterMap Event.started? ∧
      History w start (given ++ more) answers (inFlight ++ news.filterMap Event.started?)
        (ScheduleState.tell w a world news) := by
  induction news generalizing world given inFlight with
  | nil => exact ⟨[], List.nil_subset _, rfl, by simpa [ScheduleState.tell] using history⟩
  | cons event rest ih =>
    cases started : event.started? with
    | none =>
      rw [List.filterMap_cons_none started] at known ⊢
      obtain ⟨more, own, ids, history'⟩ := ih known (history.heard event)
      have told : ScheduleState.tell w a world (event :: rest) = ScheduleState.tell w a (w.observe world event) rest := by
        simp only [ScheduleState.tell, List.foldl_cons, started, Option.bind_none]
      exact ⟨more, own, ids, told ▸ history'⟩
    | some id =>
      rw [List.filterMap_cons_some started] at known ⊢
      obtain ⟨i, found⟩ : ∃ i, a.unit? id = some i := by
        obtain ⟨i, hi, own⟩ := known id List.mem_cons_self
        exact Option.isSome_iff_exists.mp
          (List.find?_isSome.mpr ⟨i, List.mem_reverse.mpr hi, decide_eq_true own⟩)
      have hi : i ∈ a.units := List.mem_reverse.mp (List.mem_of_find?_eq_some found)
      have named := List.find?_some (p := fun i : BoundCheck => i.id = id) found
      obtain rfl : i.id = id := of_decide_eq_true named
      obtain ⟨more, own, ids, history'⟩ := ih (fun id mem => known id (List.mem_cons_of_mem _ mem))
        ((history.heard event).handed i a.fixFirst)
      have told : ScheduleState.tell w a world (event :: rest) =
          ScheduleState.tell w a (w.start (w.observe world event) i a.fixFirst) rest := by
        simp only [ScheduleState.tell, List.foldl_cons, started, Option.bind_some, found]
      refine ⟨(i, a.fixFirst) :: more, List.cons_subset.mpr ⟨List.mem_map.mpr ⟨i, hi, rfl⟩, own⟩, ?_, ?_⟩
      · rw [List.map_cons, ids]
      · rw [told]
        simpa only [List.append_assoc, List.singleton_append] using history'

end Workers

end GateRunner
