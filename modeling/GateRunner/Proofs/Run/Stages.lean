import GateRunner.Proofs.WorkingSet.Expansion
import GateRunner.Run.Basic

/-!
# The stages of a run

Before anything is scheduled a run only finds things out, and all that its workers get is to hear of them: nothing is
handed to them, and they are not asked to wait (`tell_eq_foldl_observe`). There are two ways in which nothing is left to
schedule, no check that the names stand for and no check that is on; they are one, because where no check is selected
none is on and none is off (`runNamed_eq`).
-/

namespace GateRunner

namespace Registry

/-- The checks that a run for some names finds switched off. -/
def switchedOff (g : Registry) (config : Configuration) (names : List String) : List WorkingSet.SwitchedOff :=
  (WorkingSet.splitSwitched config (g.workingSet config names)).2

/-- What a run for some names may hand to its workers. -/
def jobs (g : Registry) (project : Project) (config : Configuration) (names : List String) (fixFirst : Bool) :
    List (BoundCheck × Bool) := (g.scheduled project config names).map fun i => (i, fixFirst)

/-- What is on are the checks of the working set that are not switched off. -/
theorem switchedOn_eq_filter (g : Registry) (config : Configuration) (names : List String) :
    g.switchedOn config names =
      (g.workingSet config names).filter fun i => i.id ∉ WorkingSet.offIds (g.switchedOff config names) := rfl

theorem mem_workingSet_of_mem_scheduled {g : Registry} {project : Project} {config : Configuration} {names : List String}
    {i : BoundCheck} (hi : i ∈ g.scheduled project config names) : i ∈ g.workingSet config names := by
  have on := (mem_scheduled.mp hi).1
  rw [switchedOn_eq_filter] at on
  exact List.mem_of_mem_filter on

end Registry

/-! ## What is seen before a check starts -/

theorem started_not_mem_notApplicableEvents (skipped : List CheckResult) (id : CheckId) :
    .started id ∉ notApplicableEvents skipped := by
  intro mem
  obtain ⟨r, _, mem⟩ := List.mem_flatMap.mp mem
  simp only [List.mem_cons, reduceCtorEq, List.not_mem_nil, or_self] at mem

theorem started_not_mem_pendingEvents (graph : DependencyGraph) (id : CheckId) : .started id ∉ pendingEvents graph :=
  fun mem => by simp only [pendingEvents, List.mem_cons, reduceCtorEq, List.not_mem_nil, or_self] at mem

theorem started_not_mem_switchedOffEvents (off : List WorkingSet.SwitchedOff) (id : CheckId) :
    .started id ∉ switchedOffEvents off := by
  intro mem
  obtain ⟨_, _, e⟩ := List.mem_map.mp mem
  cases e

/-- Nothing has started when the checks that do not apply have been set aside. -/
theorem started_not_mem_aside {seen : List Event} (unseen : ∀ id, .started id ∉ seen) (skipped : List CheckResult)
    (id : CheckId) : .started id ∉ seen ++ notApplicableEvents skipped :=
  fun mem => (List.mem_append.mp mem).elim (unseen id) (started_not_mem_notApplicableEvents _ id)

/-- Nothing has started when a schedule begins. -/
theorem started_not_mem_early {seen : List Event} (unseen : ∀ id, .started id ∉ seen) (graph : DependencyGraph)
    (id : CheckId) : .started id ∉ seen ++ pendingEvents graph :=
  fun mem => (List.mem_append.mp mem).elim (unseen id) (started_not_mem_pendingEvents _ id)

variable {σ : Type} {w : Workers σ}

/-- Where nothing starts, workers only hear of what happens. -/
theorem tell_eq_foldl_observe {news : List Event} (unseen : ∀ id, .started id ∉ news) (a : Assignment) (world : σ) :
    ScheduleState.tell w a world news = news.foldl w.observe world := by
  induction news generalizing world with
  | nil => rfl
  | cons event rest ih =>
    have quiet : event.started? = none := by
      cases event with
      | started id => exact absurd List.mem_cons_self (unseen id)
      | _ => rfl
    have later : ∀ id, .started id ∉ rest := fun id mem => unseen id (List.mem_cons_of_mem _ mem)
    have step : ScheduleState.tell w a world (event :: rest) = ScheduleState.tell w a (w.observe world event) rest := by
      simp only [ScheduleState.tell, List.foldl_cons, quiet, Option.bind_none]
    rw [step, ih later, List.foldl_cons]

/-! ## From names to the checks that are on -/

variable {g : Registry} {limit : SlotLimit} {project : Project} {config : Configuration} {names : List String}
  {switches : RunSwitches} {world : σ}

/-- Where no check is selected, none comes along, and none is on or off. -/
theorem splitSwitched_of_select_eq_nil (none : g.select config names = []) :
    g.switchedOn config names = [] ∧ g.switchedOff config names = [] := by
  have alone : g.workingSet config names = [] := by
    rw [Registry.workingSet, none, WorkingSet.withDependencies, WorkingSet.bringAlong]
    rfl
  have off : WorkingSet.splitSwitched config [] = ([], []) := by
    rw [WorkingSet.splitSwitched, WorkingSet.offAll]
    rfl
  exact ⟨by rw [Registry.switchedOn_eq_filter, alone, List.filter_nil], by rw [Registry.switchedOff, alone, off]⟩

/-- **A run first tells what is switched off**, and then schedules what is on, if anything is. -/
theorem runNamed_eq : runNamed w g limit project config names switches world =
    let seen := switchedOffEvents (g.switchedOff config names)
    let now := seen.foldl w.observe world
    if (g.switchedOn config names).isEmpty then ⟨.ok (.empty (w.elapsed now)), seen, now⟩
    else runSwitchedOn w limit project switches (g.switchedOn config names) seen now := by
  unfold runNamed
  by_cases none : (g.select config names).isEmpty = true
  · obtain ⟨on, off⟩ := splitSwitched_of_select_eq_nil (List.isEmpty_iff.mp none)
    rw [if_pos none, on, off]
    rfl
  · rw [if_neg none]
    simp only [tell_eq_foldl_observe (started_not_mem_switchedOffEvents _)]
    rfl

end GateRunner
