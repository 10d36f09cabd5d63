import GateRunner.Proofs.Run.Report

/-!
# What is to be seen of a run

What is seen of a run falls into three parts: what is set aside, the announcement of a schedule, and what the schedule
shows. A run that has nothing to schedule, or gets no graph, shows the first part only. `Sight` says so of one run, with
the chronicle of its schedule; for the workers this goes back to the beginning of the run, since before the schedule
they only hear of what is set aside.

**The law** (`exists_sight`): there is a sight of every run, over all registries, also where checks share an id and where
the run gives no summary.
-/

namespace GateRunner

namespace Registry

variable (g : Registry) (project : Project) (config : Configuration) (names : List String)

/-- The results of the checks that are on and do not apply. -/
def notApplicable : List CheckResult := (WorkingSet.splitApplicable project (g.switchedOn config names)).2

/-- What a run for some names shows before it has anything to schedule. -/
def asideEvents : List Event :=
  switchedOffEvents (g.switchedOff config names) ++ notApplicableEvents (g.notApplicable project config names)

/-- The graph of what a run for some names schedules. -/
def scheduledGraph : DependencyGraph := .ofUnits (g.scheduled project config names)

/-- Where the schedule of a run for some names begins. -/
def scheduleStart (limit : SlotLimit) : ScheduleState :=
  .initial (g.scheduledGraph project config names) (.ofLimit limit)
    (g.asideEvents project config names ++ pendingEvents (g.scheduledGraph project config names))

/-- What the schedule of a run for some names has to know apart from its state. -/
def assignment (switches : RunSwitches) : Assignment :=
  ⟨g.scheduled project config names, switches.fixFirst, switches.failFast⟩

end Registry

/-! ## The results in the order of the checks -/

section

variable {order : List CheckId} {skipped executed : List CheckResult} {id : CheckId} {r : CheckResult}

/-- The result that a summary has for an id, if the id is on. -/
def resultOf? (skipped executed : List CheckResult) (id : CheckId) : Option CheckResult :=
  executed.find? (fun r => r.check = id) <|> skipped.reverse.find? (fun r => r.check = id)

theorem orderedResults_eq_filterMap :
    orderedResults order skipped executed = (CheckId.firstOccurrences order).filterMap (resultOf? skipped executed) := rfl

theorem resultOf?_of_executed (found : executed.find? (fun r => r.check = id) = some r) :
    resultOf? skipped executed id = some r := by
  rw [resultOf?, found]
  rfl

theorem resultOf?_cases (found : resultOf? skipped executed id = some r) :
    (r ∈ executed ∨ r ∈ skipped) ∧ r.check = id := by
  rw [resultOf?] at found
  cases inSchedule : executed.find? (fun r => r.check = id) with
  | some held =>
    rw [inSchedule] at found
    cases found
    have own := List.find?_some inSchedule
    exact ⟨.inl (List.mem_of_find?_eq_some inSchedule), of_decide_eq_true own⟩
  | none =>
    rw [inSchedule] at found
    have outside : skipped.reverse.find? (fun r => r.check = id) = some r := found
    have own := List.find?_some outside
    exact ⟨.inr (List.mem_reverse.mp (List.mem_of_find?_eq_some outside)), of_decide_eq_true own⟩

/-- The first result of an id that is on is the one that the summary has for it. -/
theorem find?_orderedResults (mem : id ∈ order) (found : resultOf? skipped executed id = some r) :
    (orderedResults order skipped executed).find? (fun r => r.check = id) = some r := by
  rw [orderedResults_eq_filterMap, List.find?_filterMap]
  cases first : (CheckId.firstOccurrences order).find?
      fun other => (resultOf? skipped executed other).any fun r => r.check = id with
  | none =>
    have missed := List.find?_eq_none.mp first id (CheckId.mem_firstOccurrences.mpr mem)
    rw [found, Option.any_some, decide_eq_true_eq] at missed
    exact absurd (resultOf?_cases found).2 missed
  | some other =>
    have chosen := List.find?_some first
    cases result : resultOf? skipped executed other with
    | none =>
      rw [result] at chosen
      cases chosen
    | some held =>
      rw [result] at chosen
      have same : other = id := (resultOf?_cases result).2.symm.trans (of_decide_eq_true chosen)
      rw [Option.bind_some, same, found]

/-- The results of distinct checks come in another order, and none gets lost. -/
theorem orderedResults_perm (distinct : ((skipped ++ executed).map (·.check)).Nodup)
    (within : ∀ r ∈ skipped ++ executed, r.check ∈ order) :
    (orderedResults order skipped executed).Perm (skipped ++ executed) := by
  rw [orderedResults_eq_filterMap]
  have nodup : ((CheckId.firstOccurrences order).filterMap (resultOf? skipped executed)).Nodup :=
    (CheckId.nodup_firstOccurrences order).filterMap fun id other r mine yours =>
      (resultOf?_cases mine).2.symm.trans (resultOf?_cases yours).2
  refine (List.perm_ext_iff_of_nodup nodup (distinct.of_map _)).mpr fun r => ?_
  rw [List.mem_filterMap, List.mem_append]
  constructor
  · rintro ⟨id, _, found⟩
    exact (resultOf?_cases found).1.symm
  · intro hr
    refine ⟨r.check, CheckId.mem_firstOccurrences.mpr (within r (List.mem_append.mpr hr)), ?_⟩
    rw [List.map_append] at distinct
    obtain ⟨outside, inSchedule, apart⟩ := List.nodup_append.mp distinct
    rcases hr with hr | hr
    · have none : executed.find? (fun other => other.check = r.check) = none :=
        List.find?_eq_none.mpr fun other hother same =>
          apart _ (List.mem_map_of_mem hr) _ (List.mem_map_of_mem hother) (of_decide_eq_true same).symm
      have reversed : (skipped.reverse.map (·.check)).Nodup := by rwa [List.map_reverse, List.nodup_reverse]
      rw [resultOf?, none]
      exact CheckId.find?_of_nodup reversed (List.mem_reverse.mpr hr)
    · exact resultOf?_of_executed (CheckId.find?_of_nodup inSchedule hr)

end

open ScheduleState

variable {σ : Type} {w : Workers σ} {g : Registry} {limit : SlotLimit} {project : Project} {config : Configuration}
  {names : List String} {switches : RunSwitches} {world : σ}

/-- What is seen of a run: what is set aside, the announcement of the schedule, and what the schedule shows up to its
last state. Its workers have come from one world to the one that the run leaves behind. -/
structure Sight (w : Workers σ) (g : Registry) (limit : SlotLimit) (project : Project) (config : Configuration)
    (names : List String) (switches : RunSwitches) (world : σ) (report : RunReport σ) (announced : List Event)
    (handed : List (BoundCheck × Bool)) (answers : List Completion) (seen : List Event) (last : ScheduleState) :
    Prop where
  announcement : announced = [] ∨ announced = pendingEvents (g.scheduledGraph project config names)
  trace : report.trace = g.asideEvents project config names ++ announced ++ seen
  chronicle : Chronicle w (g.assignment project config names switches) world (g.scheduledGraph project config names) limit
    (g.asideEvents project config names ++ announced) handed answers seen last report.world
  /-- A summary comes of a schedule that has ended, if there was anything to schedule. -/
  ended : ∀ summary, report.outcome = .ok summary →
    announced = (if g.scheduled project config names = [] then [] else
      pendingEvents (g.scheduledGraph project config names)) ∧
    last.pending = [] ∧ last.running = [] ∧
    summary.results = orderedResults ((g.switchedOn config names).map (·.id)) (g.notApplicable project config names)
      last.results

theorem order_scheduledGraph : (g.scheduledGraph project config names).order =
    (g.scheduled project config names).map (·.id) := DependencyGraph.order_ofUnits _

/-! ## Starts and results -/

theorem started?_asideEvents : (g.asideEvents project config names).filterMap Event.started? = [] :=
  List.eq_nil_iff_forall_not_mem.mpr fun id mem =>
    started_not_mem_aside (started_not_mem_switchedOffEvents _) _ id (mem_filterMap_started?.mp mem)

theorem finished?_notApplicableEvents (skipped : List CheckResult) :
    (notApplicableEvents skipped).filterMap Event.finished? = skipped := by
  induction skipped with
  | nil => rfl
  | cons r rest ih => exact congrArg (r :: ·) ih

/-- Of what is set aside, the checks that do not apply have results. -/
theorem finished?_asideEvents :
    (g.asideEvents project config names).filterMap Event.finished? = g.notApplicable project config names := by
  have none : (switchedOffEvents (g.switchedOff config names)).filterMap Event.finished? = [] :=
    List.filterMap_eq_nil_iff.mpr fun event mem => by
      obtain ⟨_, _, rfl⟩ := List.mem_map.mp mem
      rfl
  rw [Registry.asideEvents, List.filterMap_append, none, finished?_notApplicableEvents, List.nil_append]

theorem map_check_notApplicable : (g.notApplicable project config names).map (·.check) =
    ((g.switchedOn config names).filter fun i => !i.check.applies project).map (·.id) := by
  rw [Registry.notApplicable, WorkingSet.splitApplicable, List.map_map]
  rfl

namespace Sight

variable {report : RunReport σ} {announced seen : List Event} {handed : List (BoundCheck × Bool)}
  {answers : List Completion} {last : ScheduleState}
  (sight : Sight w g limit project config names switches world report announced handed answers seen last)
include sight

/-- The tally of the schedule. -/
theorem tally : Tally (g.scheduledGraph project config names) limit (· ∈ answers)
    (g.asideEvents project config names ++ announced) seen last := sight.chronicle.tally

theorem started?_announced : announced.filterMap Event.started? = [] := by
  rcases sight.announcement with rfl | rfl <;> rfl

/-- All starts of a run are those of its schedule. -/
theorem started? : report.trace.filterMap Event.started? = seen.filterMap Event.started? := by
  rw [sight.trace, List.filterMap_append, List.filterMap_append, started?_asideEvents, sight.started?_announced,
    List.nil_append, List.nil_append]

/-- The results of a run are those of the checks that do not apply, and those of its schedule. -/
theorem finished? : report.trace.filterMap Event.finished? = g.notApplicable project config names ++ last.results := by
  have quiet : announced.filterMap Event.finished? = [] := by
    rcases sight.announcement with rfl | rfl <;> rfl
  rw [sight.trace, List.filterMap_append, List.filterMap_append, finished?_asideEvents, quiet, List.append_nil,
    sight.tally.results]

/-- At every start in a run, what the check depends on in the graph has finished with a pass. -/
theorem passed_before_start {early : List Event} {id d : CheckId} (begun : early ++ [.started id] <+: report.trace)
    (dep : (g.scheduledGraph project config names).DependsOn id d) :
    ∃ r, .finished r ∈ early ∧ r.check = d ∧ r.isPassed = true := by
  have quiet : .started id ∉ g.asideEvents project config names ++ announced := by
    rw [← mem_filterMap_started?, List.filterMap_append, started?_asideEvents, sight.started?_announced]
    exact List.not_mem_nil
  rw [sight.trace] at begun
  rcases prefix_append_cases begun with within | ⟨⟨more, rfl⟩, _⟩
  · exact absurd (within.subset (List.mem_append_right _ List.mem_cons_self)) quiet
  · rw [List.append_assoc _ more, List.prefix_append_right_inj] at begun
    obtain ⟨r, finished, own, passed⟩ := (sight.tally.founded more id begun).passed d dep
    exact ⟨r, List.mem_append_right _ finished, own, passed⟩

end Sight

/-! ## There is a sight of every run -/

/-- Whatever checks get a graph, it is theirs. -/
theorem DependencyGraph.eq_ofUnits_of_ofAcyclic {units : List BoundCheck} {graph : DependencyGraph}
    (accepted : ofAcyclic units = .ok graph) : graph = ofUnits units := by
  unfold ofAcyclic at accepted
  cases sorted : (ofUnits units).dependencyOrder with
  | ok _ =>
    simp only [sorted] at accepted
    exact (Except.ok.inj accepted).symm
  | error e =>
    simp only [sorted] at accepted
    cases accepted

/-- The sight of a run that shows nothing but what is set aside. -/
theorem exists_sight_of_aside {report : RunReport σ} (trace : report.trace = g.asideEvents project config names)
    (heard : report.world = (g.asideEvents project config names).foldl w.observe world)
    (ended : ∀ summary, report.outcome = .ok summary → g.scheduled project config names = [] ∧
      summary.results = orderedResults ((g.switchedOn config names).map (·.id)) (g.notApplicable project config names) []) :
    ∃ announced handed answers seen last,
      Sight w g limit project config names switches world report announced handed answers seen last := by
  have history : w.History world [] [] [] report.world := heard ▸ Workers.History.here.foldl_observe _
  refine ⟨[], [], [], [], _, .inl rfl, by simpa using trace, chronicle_initial history, fun summary ok => ?_⟩
  obtain ⟨nothing, results⟩ := ended summary ok
  have order : (g.scheduledGraph project config names).order = [] := by
    rw [order_scheduledGraph, nothing]
    rfl
  exact ⟨(if_pos nothing).symm, order, rfl, results⟩

/-- The schedule of a run has a chronicle, and without a fault it leaves nothing pending and nothing in flight. -/
theorem schedule_spec {ending : Ending σ}
    (run : (g.scheduleStart project config names limit).loop w (g.assignment project config names switches)
      ((g.scheduleStart project config names limit).trace.foldl w.observe world) = ending) :
    Chronicled w (g.assignment project config names switches) world (g.scheduledGraph project config names) limit
      (g.asideEvents project config names ++ pendingEvents (g.scheduledGraph project config names)) ending.state
      ending.world ∧ Ended ending := by
  subst run
  let first := g.scheduleStart project config names limit
  have begun : Chronicled w (g.assignment project config names switches) world _ limit _ first
    (first.trace.foldl w.observe world) := chronicled_initial (Workers.History.here.foldl_observe _)
  exact ⟨begun.loop (exists_unit_of_mem_order (g.assignment project config names switches)) .here, ended_loop .here⟩

/-- **There is a sight of every run.** -/
theorem exists_sight (w : Workers σ) (g : Registry) (limit : SlotLimit) (project : Project) (config : Configuration)
    (names : List String) (switches : RunSwitches) (world : σ) :
    ∃ announced handed answers seen last, Sight w g limit project config names switches world
      (runNamed w g limit project config names switches world) announced handed answers seen last := by
  rw [runNamed_eq]
  simp only
  split
  · rename_i off
    have none := List.isEmpty_iff.mp off
    have skipped : g.notApplicable project config names = [] := by rw [Registry.notApplicable, none]; rfl
    have aside : switchedOffEvents (g.switchedOff config names) = g.asideEvents project config names := by
      rw [Registry.asideEvents, skipped]
      exact (List.append_nil _).symm
    refine exists_sight_of_aside aside (congrArg _ aside) fun summary ok => ⟨by rw [Registry.scheduled, none]; rfl, ?_⟩
    cases ok
    rw [none, skipped]
    rfl
  · cases accepted : DependencyGraph.ofAcyclic (g.scheduled project config names) with
    | error e =>
      rw [runSwitchedOn_of_refused accepted]
      exact exists_sight_of_aside rfl List.foldl_append.symm fun summary ok => by cases ok
    | ok graph =>
      obtain rfl := DependencyGraph.eq_ofUnits_of_ofAcyclic accepted
      rw [runSwitchedOn_of_accepted accepted]
      simp only
      split
      · rename_i nothing
        refine exists_sight_of_aside rfl List.foldl_append.symm fun summary ok => ?_
        cases ok
        exact ⟨DependencyGraph.eq_nil_of_isEmpty_ofUnits nothing, rfl⟩
      · rename_i some
        have scheduled : g.scheduled project config names ≠ [] := fun nothing => some (by rw [nothing]; rfl)
        simp only [← List.foldl_append]
        generalize run : ScheduleState.loop w _ _ _ = ending
        obtain ⟨⟨handed, answers, seen, chronicle⟩, left⟩ := schedule_spec run
        cases sound : ending.fault with
        | some e =>
          rw [Ending.report_of_fault sound]
          exact ⟨_, handed, answers, seen, ending.state, .inr rfl, chronicle.tally.trace, chronicle,
            fun summary ok => by cases ok⟩
        | none =>
          rw [Ending.report_of_sound sound]
          refine ⟨_, handed, answers, seen, ending.state, .inr rfl, chronicle.tally.trace, chronicle,
            fun summary ok => ?_⟩
          cases ok
          exact ⟨(if_neg scheduled).symm, (left sound).1, (left sound).2, rfl⟩

end GateRunner
