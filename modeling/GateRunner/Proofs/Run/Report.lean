import GateRunner.Proofs.Run.Stages
import GateRunner.Proofs.Schedule.Agreement
import GateRunner.Proofs.Schedule.Chronicle
import GateRunner.Proofs.Schedule.Replay

/-!
# What a run reports

A run reports on the checks that are on, in their order: on those that apply with the results of the schedule, on the
others with a result of their own (`reported`, `runSwitchedOn_eq`). The account of the schedule is that of the run, since
nothing starts before it.

**The law** (`runNamed_account`): under workers that answer, a run over distinct checks without a circle ends with a
summary, and its account is in order. This is for all names, configurations, projects, switches and slots, also where
nothing is left to schedule.
-/

namespace GateRunner

section

variable {outcome : CheckId → CheckResult}

/-- The results of some checks in their order, given those of the checks that apply. -/
def reported (project : Project) (units : List BoundCheck) (result : CheckId → CheckResult) : List CheckResult :=
  units.map fun i => if i.check.applies project then result i.id else WorkingSet.notApplicableResult project i

/-- The results of a schedule come into the order of the checks, with those of the checks that do not apply. -/
theorem orderedResults_eq_reported {project : Project} {units : List BoundCheck} {executed : List CheckResult}
    {result : CheckId → CheckResult} (distinct : (units.map (·.id)).Nodup)
    (found : ∀ id, executed.find? (fun r => r.check = id) =
      if id ∈ (WorkingSet.splitApplicable project units).1.map (·.id) then some (result id) else none) :
    orderedResults (units.map (·.id)) (WorkingSet.splitApplicable project units).2 executed =
      reported project units result := by
  rw [orderedResults, CheckId.firstOccurrences_of_nodup distinct, List.filterMap_map]
  refine List.filterMap_eq_map_iff_forall_eq_some.mpr fun i hi => ?_
  rw [Function.comp_apply, found]
  by_cases applies : i.check.applies project = true
  · have mem : i.id ∈ (WorkingSet.splitApplicable project units).1.map (·.id) :=
      List.mem_map.mpr ⟨i, List.mem_filter.mpr ⟨hi, applies⟩, rfl⟩
    rw [if_pos mem, if_pos applies]
    rfl
  · have none : i.id ∉ (WorkingSet.splitApplicable project units).1.map (·.id) := by
      intro mem
      obtain ⟨j, hj, same⟩ := List.mem_map.mp mem
      obtain ⟨hj, applies'⟩ := List.mem_filter.mp hj
      exact applies (List.inj_on_of_nodup_map distinct hj hi same ▸ applies')
    have distinct' : ((WorkingSet.splitApplicable project units).2.reverse.map (·.check)).Nodup := by
      rw [List.map_reverse, List.nodup_reverse, WorkingSet.splitApplicable, List.map_map]
      exact distinct.sublist (List.filter_sublist.map _)
    have mem : WorkingSet.notApplicableResult project i ∈ (WorkingSet.splitApplicable project units).2.reverse :=
      List.mem_reverse.mpr (List.mem_map.mpr ⟨i, List.mem_filter.mpr ⟨hi, by simp only [applies, Bool.not_false]⟩, rfl⟩)
    rw [if_neg none, if_neg applies]
    exact CheckId.find?_of_nodup distinct' mem

/-- Where no check applies, the results are those of the checks that do not. -/
theorem orderedResults_nil {project : Project} {units : List BoundCheck} (distinct : (units.map (·.id)).Nodup)
    (nothing : (WorkingSet.splitApplicable project units).1 = []) :
    orderedResults (units.map (·.id)) (WorkingSet.splitApplicable project units).2 [] =
      reported project units fun id => .skipped id .failFast :=
  orderedResults_eq_reported distinct fun id => by
    rw [nothing, List.map_nil, if_neg List.not_mem_nil, List.find?_nil]

/-- Results that go under the ids of their checks come in the order of the checks. -/
theorem map_check_reported {project : Project} {units : List BoundCheck} {result : CheckId → CheckResult}
    (own : ∀ i ∈ units, i.check.applies project = true → (result i.id).check = i.id) :
    (reported project units result).map (·.check) = units.map (·.id) := by
  rw [reported, List.map_map]
  refine List.map_congr_left fun i hi => ?_
  rw [Function.comp_apply]
  split
  · exact own i hi ‹_›
  · rfl

/-- The summary gives each check that applies its result. -/
theorem result?_reported {project : Project} {units : List BoundCheck} {result : CheckId → CheckResult}
    (distinct : (units.map (·.id)).Nodup)
    (own : ∀ i ∈ units, i.check.applies project = true → (result i.id).check = i.id) (duration : Duration) {i : BoundCheck}
    (hi : i ∈ units) (applies : i.check.applies project = true) :
    (RunSummary.ofResults (reported project units result) duration).result? i.id = some (result i.id) := by
  have mem : result i.id ∈ reported project units result := List.mem_map.mpr ⟨i, hi, if_pos applies⟩
  have found := CheckId.find?_of_nodup (map_check_reported own ▸ distinct) mem
  rwa [own i hi applies] at found

namespace Account

variable {graph : DependencyGraph} {acyclic : graph.Acyclic} {failFast : Bool} {trace : List Event}
  {result : CheckId → CheckResult}

/-- Where there is nothing to schedule and nothing starts, there is nothing to account for. -/
theorem of_empty (empty : graph.order = []) (unseen : ∀ id, .started id ∉ trace) :
    Account acyclic outcome failFast trace result :=
  ⟨fun id seen => absurd seen (unseen id), fun id seen => absurd seen (unseen id),
    fun _ hid => absurd hid (empty ▸ List.not_mem_nil), .inl fun _ hid => absurd hid (empty ▸ List.not_mem_nil)⟩

/-- The result of a check is under its id. -/
theorem check_result (account : Account acyclic outcome failFast trace result) {id : CheckId} (hid : id ∈ graph.order) :
    (result id).check = id := by
  by_cases started : .started id ∈ trace
  · rw [(account.started id started).2, DependencyGraph.check_expected]
  · obtain ⟨reason, skipped, _⟩ := account.left id hid started
    rw [skipped, CheckResult.check_skipped]

end Account

/-! ## The run -/

variable {σ : Type} {w : Workers σ}

/-- Where the checks to be scheduled get no graph, the run has only told what is set aside. -/
theorem runSwitchedOn_of_refused {limit : SlotLimit} {project : Project} {switches : RunSwitches}
    {units : List BoundCheck} {seen : List Event} {world : σ} {e : RunError}
    (refused : DependencyGraph.ofAcyclic (WorkingSet.splitApplicable project units).1 = .error e) :
    runSwitchedOn w limit project switches units seen world =
      let aside := notApplicableEvents (WorkingSet.splitApplicable project units).2
      ⟨.error e, seen ++ aside, aside.foldl w.observe world⟩ := by
  simp only [runSwitchedOn, refused, tell_eq_foldl_observe (started_not_mem_notApplicableEvents _)]

/-- What a run leaves behind whose schedule has ended, given the checks that are on and the results of those that do not
apply. -/
def Ending.report (w : Workers σ) (order : List CheckId) (skipped : List CheckResult) (ending : Ending σ) : RunReport σ :=
  match ending.fault with
  | some e => ⟨.error e, ending.state.trace, ending.world⟩
  | none => ⟨.ok (.ofResults (orderedResults order skipped ending.state.results) (w.elapsed ending.world)),
      ending.state.trace, ending.world⟩

theorem Ending.report_of_fault {order : List CheckId} {skipped : List CheckResult} {ending : Ending σ} {e : RunError}
    (fault : ending.fault = some e) :
    ending.report w order skipped = ⟨.error e, ending.state.trace, ending.world⟩ := by
  simp only [report, fault]

theorem Ending.report_of_sound {order : List CheckId} {skipped : List CheckResult} {ending : Ending σ}
    (sound : ending.fault = none) :
    ending.report w order skipped =
      ⟨.ok (.ofResults (orderedResults order skipped ending.state.results) (w.elapsed ending.world)), ending.state.trace,
        ending.world⟩ := by
  simp only [report, sound]

/-- Where the checks to be scheduled get a graph, the run goes on with it, if there are any. -/
theorem runSwitchedOn_of_accepted {limit : SlotLimit} {project : Project} {switches : RunSwitches}
    {units : List BoundCheck} {seen : List Event} {world : σ} {graph : DependencyGraph}
    (accepted : DependencyGraph.ofAcyclic (WorkingSet.splitApplicable project units).1 = .ok graph) :
    runSwitchedOn w limit project switches units seen world =
      let applicable := (WorkingSet.splitApplicable project units).1
      let skipped := (WorkingSet.splitApplicable project units).2
      let early := pendingEvents graph
      let now := (notApplicableEvents skipped).foldl w.observe world
      let ending := (ScheduleState.initial graph (.ofLimit limit) (seen ++ notApplicableEvents skipped ++ early)).loop w
        ⟨applicable, switches.fixFirst, switches.failFast⟩ (early.foldl w.observe now)
      if graph.isEmpty then
        ⟨.ok (.ofResults (orderedResults (units.map (·.id)) skipped []) (w.elapsed now)),
          seen ++ notApplicableEvents skipped, now⟩
      else ending.report w (units.map (·.id)) skipped := by
  simp only [runSwitchedOn, accepted, tell_eq_foldl_observe (started_not_mem_notApplicableEvents _),
    tell_eq_foldl_observe (started_not_mem_pendingEvents _)]
  rfl

/-- **Scheduling distinct checks without a circle**: what does not apply is set aside, and if anything is left the
summary has the results of the schedule. -/
theorem runSwitchedOn_eq {project : Project} {units : List BoundCheck} (distinct : (units.map (·.id)).Nodup)
    (acyclic : (DependencyGraph.ofUnits (WorkingSet.splitApplicable project units).1).Acyclic) (limit : SlotLimit)
    (switches : RunSwitches) {seen : List Event} (unseen : ∀ id, .started id ∉ seen) (world : σ) :
    runSwitchedOn w limit project switches units seen world =
      let applicable := (WorkingSet.splitApplicable project units).1
      let aside := notApplicableEvents (WorkingSet.splitApplicable project units).2
      let early := pendingEvents (.ofUnits applicable)
      let now := aside.foldl w.observe world
      let ending := (ScheduleState.initial (.ofUnits applicable) (.ofLimit limit) (seen ++ aside ++ early)).loop w
        ⟨applicable, switches.fixFirst, switches.failFast⟩ (early.foldl w.observe now)
      if applicable = [] then
        ⟨.ok (.ofResults (reported project units fun id => .skipped id .failFast) (w.elapsed now)), seen ++ aside, now⟩
      else
        match ending.fault with
        | some e => ⟨.error e, ending.state.trace, ending.world⟩
        | none => ⟨.ok (.ofResults (reported project units ending.state.resultOf) (w.elapsed ending.world)),
            ending.state.trace, ending.world⟩ := by
  have distinct' := WorkingSet.nodup_splitApplicable distinct project
  have accepted := (DependencyGraph.ofAcyclic_eq_ok_iff distinct').mpr ⟨rfl, acyclic⟩
  have aside := started_not_mem_aside unseen (WorkingSet.splitApplicable project units).2
  rw [runSwitchedOn_of_accepted accepted]
  by_cases nothing : (WorkingSet.splitApplicable project units).1 = []
  · simp only [if_pos nothing, orderedResults_nil distinct nothing]
    exact if_pos (by rw [nothing]; rfl)
  · have some : ¬ (DependencyGraph.ofUnits (WorkingSet.splitApplicable project units).1).isEmpty = true := fun empty =>
      nothing (DependencyGraph.eq_nil_of_isEmpty_ofUnits empty)
    simp only [if_neg nothing, if_neg some]
    generalize run : ScheduleState.loop w _ _ _ = ending
    cases sound : ending.fault with
    | some e => rw [Ending.report_of_fault sound]
    | none =>
      have found := ScheduleState.loop_result?_eq_ite (DependencyGraph.proper_ofUnits distinct').distinct limit
        (started_not_mem_early aside _) _ (run ▸ sound)
      simp only [run, DependencyGraph.order_ofUnits] at found
      rw [Ending.report_of_sound sound, orderedResults_eq_reported distinct found]

/-- A run ended with a summary of some checks, and its account is in order. -/
def RunReport.Accounts {graph : DependencyGraph} (acyclic : graph.Acyclic) (outcome : CheckId → CheckResult)
    (failFast : Bool) (project : Project) (units : List BoundCheck) (report : RunReport σ) : Prop :=
  ∃ result, Account acyclic outcome failFast report.trace result ∧
    ∃ duration, report.outcome = .ok (.ofResults (reported project units result) duration)

/-- Under workers that answer, the account of such a run is in order. -/
theorem runSwitchedOn_account {project : Project} {units : List BoundCheck} (distinct : (units.map (·.id)).Nodup)
    (acyclic : (DependencyGraph.ofUnits (WorkingSet.splitApplicable project units).1).Acyclic) (limit : SlotLimit)
    (switches : RunSwitches) {seen : List Event} (unseen : ∀ id, .started id ∉ seen) {origin world : σ}
    (begun : w.History origin [] [] [] world)
    (diligent : w.Diligent ((WorkingSet.splitApplicable project units).1.map fun i => (i, switches.fixFirst)) origin)
    (faithful :
      w.Faithful ((WorkingSet.splitApplicable project units).1.map fun i => (i, switches.fixFirst)) origin outcome) :
    (runSwitchedOn w limit project switches units seen world).Accounts acyclic outcome switches.failFast project
      units := by
  have proper := DependencyGraph.proper_ofUnits (WorkingSet.nodup_splitApplicable distinct project)
  have aside := started_not_mem_aside unseen (WorkingSet.splitApplicable project units).2
  rw [runSwitchedOn_eq distinct acyclic limit switches unseen]
  by_cases nothing : (WorkingSet.splitApplicable project units).1 = []
  · simp only [if_pos nothing]
    exact ⟨_, .of_empty (by rw [DependencyGraph.order_ofUnits, nothing, List.map_nil]) aside, _, rfl⟩
  · simp only [if_neg nothing]
    let a : Assignment := ⟨(WorkingSet.splitApplicable project units).1, switches.fixFirst, switches.failFast⟩
    have known := ScheduleState.exists_unit_of_mem_order a
    have history := (begun.foldl_observe (notApplicableEvents (WorkingSet.splitApplicable project units).2)).foldl_observe
      (pendingEvents (.ofUnits a.units))
    obtain ⟨sound, account⟩ := ScheduleState.loop_account (w := w) (a := a) acyclic proper.distinct
      proper.mem_order_of_dependsOn limit (started_not_mem_early aside _) _ (diligent.responsive known history)
      fun c answered => faithful.result_eq known history answered
    rw [sound]
    exact ⟨_, account, _, rfl⟩

variable {g : Registry} {project : Project} {config : Configuration} {names : List String}

/-- The results depend on those of the checks that a run schedules only. -/
theorem reported_congr {result result' : CheckId → CheckResult}
    (same : ∀ i ∈ g.scheduled project config names, result i.id = result' i.id) :
    reported project (g.switchedOn config names) result = reported project (g.switchedOn config names) result' := by
  refine List.map_congr_left fun i hi => ?_
  split
  · exact same i (Registry.mem_scheduled.mpr ⟨hi, ‹_›⟩)
  · rfl

theorem mem_order_iff_scheduled {id : CheckId} :
    id ∈ (DependencyGraph.ofUnits (g.scheduled project config names)).order ↔
      ∃ i ∈ g.scheduled project config names, i.id = id := by
  rw [DependencyGraph.order_ofUnits, List.mem_map]

theorem mem_order_of_scheduled {i : BoundCheck} (hi : i ∈ g.scheduled project config names) :
    i.id ∈ (DependencyGraph.ofUnits (g.scheduled project config names)).order :=
  mem_order_iff_scheduled.mpr ⟨i, hi, rfl⟩

/-- The summary of a run gives each check that it scheduled the result on the account. -/
theorem Account.result?_eq {acyclic : (DependencyGraph.ofUnits (g.scheduled project config names)).Acyclic}
    {failFast : Bool} {trace : List Event} {result : CheckId → CheckResult}
    (account : Account acyclic outcome failFast trace result) (stable : g.IdStable) (duration : Duration) {id : CheckId}
    (hid : id ∈ (DependencyGraph.ofUnits (g.scheduled project config names)).order) :
    (RunSummary.ofResults (reported project (g.switchedOn config names) result) duration).result? id =
      some (result id) := by
  obtain ⟨i, hi, rfl⟩ := mem_order_iff_scheduled.mp hid
  obtain ⟨on, applies⟩ := Registry.mem_scheduled.mp hi
  refine result?_reported (stable.nodup_switchedOn names) (fun j hj applies' => ?_) duration on applies
  exact account.check_result (mem_order_of_scheduled (Registry.mem_scheduled.mpr ⟨hj, applies'⟩))

/-- Where no check is on, there is nothing to summarise and nothing to account for. -/
theorem accounts_of_switchedOn_eq_nil (none : g.switchedOn config names = [])
    (acyclic : (DependencyGraph.ofUnits (g.scheduled project config names)).Acyclic) (failFast : Bool)
    {trace : List Event} (unseen : ∀ id, .started id ∉ trace) (duration : Duration) (world : σ) :
    RunReport.Accounts acyclic outcome failFast project (g.switchedOn config names)
      ⟨.ok (.empty duration), trace, world⟩ := by
  have order : (DependencyGraph.ofUnits (g.scheduled project config names)).order = [] := by
    rw [DependencyGraph.order_ofUnits, Registry.scheduled, none]
    rfl
  rw [none]
  exact ⟨fun id => .skipped id .failFast, .of_empty order unseen, duration, rfl⟩

/-- **A run under workers that answer ends with a summary, and its account is in order**, over a registry whose makers
keep to their ids, if what it schedules has no circle. -/
theorem runNamed_account (stable : g.IdStable)
    (acyclic : (DependencyGraph.ofUnits (g.scheduled project config names)).Acyclic) (limit : SlotLimit)
    (switches : RunSwitches) {world : σ} (diligent : w.Diligent (g.jobs project config names switches.fixFirst) world)
    (faithful : w.Faithful (g.jobs project config names switches.fixFirst) world outcome) :
    (runNamed w g limit project config names switches world).Accounts acyclic outcome switches.failFast project
      (g.switchedOn config names) := by
  have seen := started_not_mem_switchedOffEvents (g.switchedOff config names)
  rw [runNamed_eq]
  show RunReport.Accounts acyclic outcome _ project _ (if (g.switchedOn config names).isEmpty = true then _ else _)
  split
  · rename_i off
    exact accounts_of_switchedOn_eq_nil (List.isEmpty_iff.mp off) acyclic _ seen _ _
  · exact runSwitchedOn_account (stable.nodup_switchedOn names) acyclic limit switches seen
      (Workers.History.here.foldl_observe _) diligent faithful

end

/-! ## The sample gate -/

namespace SampleGate

def registry : Registry := .ofScripts scripts

def names : List String := ["python:tests", "python:docs", "python:audit"]

/-- The checks that a run of the sample schedules: all but the audit, which does not apply. -/
def scheduled : List BoundCheck := registry.scheduled default .default names

def graph : DependencyGraph := .ofUnits scheduled

theorem stable : registry.IdStable := Registry.idStable_ofScripts _

theorem accepted : DependencyGraph.ofAcyclic scheduled = .ok graph := by decide +kernel

theorem acyclic : graph.Acyclic :=
  ((DependencyGraph.ofAcyclic_eq_ok_iff (stable.nodup_scheduled default names)).mp accepted).2

end SampleGate

end GateRunner
