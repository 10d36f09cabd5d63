import GateRunner.Proofs.Schedule.Course

/-!
# What the deeds of a course leave on record

The state that a course leads to is told by its deeds: the trace grows by one event for each, the results by those that
the deeds leave, and the run is stopped once a failure is taken in under fail-fast. Checks leave the pending ones by
being skipped or started, and those in flight by being completed, so the deeds of each kind account for the lists of the
state (`Course.pending_perm`, `Course.running_perm`). A check is therefore never both skipped and started, and at the
end of a run, with nothing in flight, the checks that were started are those that were completed.
-/

namespace GateRunner

/-- The check that a deed takes from the pending ones. -/
def Deed.withdrawn? : Deed → Option CheckId
  | .skip id _ => some id
  | .start id => some id
  | .complete _ => none

/-- The check that a deed starts. -/
def Deed.started? (deed : Deed) : Option CheckId := deed.event.started?

/-- The check that a deed completes. -/
def Deed.completed? : Deed → Option CheckId
  | .complete c => some c.id
  | _ => none

/-- Whether a deed stops the run. -/
def Deed.stops (failFast : Bool) : Deed → Bool
  | .complete c => failFast && c.result.isFailed
  | _ => false

theorem Deed.eq_start_of_event {deed : Deed} {id : CheckId} (h : deed.event = .started id) : deed = .start id := by
  cases deed with
  | start other =>
    cases h
    rfl
  | _ => cases h

/-- Two entries of a list that give the same value are the same, if no value comes up twice. -/
theorem eq_of_nodup_filterMap {α β : Type} {f : α → Option β} {items : List α} {value : β}
    (distinct : (items.filterMap f).Nodup) {a b : α} (ha : a ∈ items) (hb : b ∈ items) (fa : f a = some value)
    (fb : f b = some value) : a = b := by
  induction items with
  | nil => cases ha
  | cons item rest ih =>
    have later : ∀ {x : α}, x ∈ rest → f x = some value → value ∈ rest.filterMap f := fun hx fx =>
      List.mem_filterMap.mpr ⟨_, hx, fx⟩
    rcases List.mem_cons.mp ha with rfl | inRest
    · rcases List.mem_cons.mp hb with rfl | hb
      · rfl
      · rw [List.filterMap_cons_some fa] at distinct
        exact absurd (later hb fb) (List.nodup_cons.mp distinct).1
    · rcases List.mem_cons.mp hb with rfl | hb
      · rw [List.filterMap_cons_some fb] at distinct
        exact absurd (later inRest fa) (List.nodup_cons.mp distinct).1
      · refine ih ?_ inRest hb
        cases fi : f item with
        | none => rwa [List.filterMap_cons_none fi] at distinct
        | some _ =>
          rw [List.filterMap_cons_some fi] at distinct
          exact (List.nodup_cons.mp distinct).2

namespace ScheduleState

open scoped List

/-- What one deed does to the parts of a state. -/
structure StepRecord (failFast : Bool) (s t : ScheduleState) (deed : Deed) : Prop where
  graph : t.graph = s.graph
  limit : t.slots.limit = s.slots.limit
  trace : t.trace = s.trace ++ [deed.event]
  results : t.results = s.results ++ deed.result?.toList
  stopped : t.stopped = (s.stopped || deed.stops failFast)
  pending : s.pending ~ deed.withdrawn?.toList ++ t.pending
  running : s.running ++ deed.started?.toList ~ deed.completed?.toList ++ t.running

/-- **What an allowed deed does.** Every other statement on courses reads it off here. -/
theorem Consistent.stepRecord {s : ScheduleState} (h : s.Consistent) {deed : Deed} (allowed : s.Allows deed)
    (failFast : Bool) : StepRecord failFast s (s.after failFast deed) deed := by
  have skip : ∀ {id : CheckId}, id ∈ s.pending → ∀ reason,
      StepRecord failFast s (s.skip id reason) (.skip id reason) := by
    intro id hid reason
    rw [h.skip_eq hid]
    refine ⟨rfl, rfl, rfl, rfl, (Bool.or_false _).symm, h.perm_withdraw hid, ?_⟩
    simp only [Deed.started?, Deed.event, Event.started?, Deed.completed?, Option.toList_none, List.append_nil,
      List.nil_append, List.Perm.refl]
  cases allowed with
  | barred pending _ _ => exact skip pending _
  | left pending _ _ => exact skip pending _
  | ready pending _ _ _ =>
    exact ⟨rfl, rfl, rfl, (List.append_nil _).symm, (Bool.or_false _).symm, h.perm_withdraw pending, .refl _⟩
  | inFlight running =>
    rename_i c
    rw [show s.after failFast (.complete c) = s.takeIn failFast c from rfl, h.takeIn_eq running]
    refine ⟨rfl, rfl, rfl, rfl, rfl, .refl _, ?_⟩
    simpa only [Deed.started?, Deed.event, Event.started?, Option.toList_none, List.append_nil, Deed.completed?,
      Option.toList_some, List.singleton_append] using List.perm_cons_erase running

namespace Course

variable {failFast : Bool} {s t : ScheduleState} {deeds : List Deed} (course : Course failFast s deeds t)
include course

theorem graph_eq (h : s.Consistent) : t.graph = s.graph := by
  induction course with
  | nil => rfl
  | cons allowed _ ih => exact (ih (h.step allowed failFast)).trans (h.stepRecord allowed failFast).graph

theorem limit_eq (h : s.Consistent) : t.slots.limit = s.slots.limit := by
  induction course with
  | nil => rfl
  | cons allowed _ ih => exact (ih (h.step allowed failFast)).trans (h.stepRecord allowed failFast).limit

/-- The trace grows by one event for each deed. -/
theorem trace_eq (h : s.Consistent) : t.trace = s.trace ++ deeds.map Deed.event := by
  induction course with
  | nil => simp only [List.map_nil, List.append_nil]
  | cons allowed _ ih =>
    rw [ih (h.step allowed failFast), (h.stepRecord allowed failFast).trace, List.append_assoc, List.map_cons]
    rfl

/-- The results grow by those that the deeds leave. -/
theorem results_eq (h : s.Consistent) : t.results = s.results ++ deeds.filterMap Deed.result? := by
  induction course with
  | nil => simp only [List.filterMap_nil, List.append_nil]
  | cons allowed _ ih =>
    rename_i deed rest _
    rw [ih (h.step allowed failFast), (h.stepRecord allowed failFast).results, List.append_assoc, List.filterMap_cons]
    cases deed.result? <;> rfl

/-- A result stays as it is found. -/
theorem result?_eq_of_some (h : s.Consistent) {id : CheckId} {r : CheckResult} (found : s.result? id = some r) :
    t.result? id = some r := by
  rw [result?, course.results_eq h, List.find?_append, show s.results.find? (fun r => r.check = id) = some r from found]
  rfl

/-- A result is the scheduler's own, of a check that it skipped, or that of a check that was completed. -/
theorem result_cases (h : s.Consistent) (fresh : s.results = []) {r : CheckResult} (hr : r ∈ t.results) :
    (∃ reason, .skip r.check reason ∈ deeds ∧ r = .skipped r.check reason) ∨
      ∃ c, .complete c ∈ deeds ∧ c.result.under c.id = r := by
  rw [course.results_eq h, fresh, List.nil_append] at hr
  obtain ⟨deed, hdeed, e⟩ := List.mem_filterMap.mp hr
  cases deed with
  | skip id reason =>
    cases e
    exact .inl ⟨reason, hdeed, rfl⟩
  | start _ => cases e
  | complete c =>
    cases e
    exact .inr ⟨c, hdeed, rfl⟩

/-- A check has been seen to start when it had been before, or when a deed started it. -/
theorem started_mem_trace_iff (h : s.Consistent) {id : CheckId} :
    .started id ∈ t.trace ↔ .started id ∈ s.trace ∨ .start id ∈ deeds := by
  rw [course.trace_eq h, List.mem_append]
  refine or_congr_right ⟨fun mem => ?_, fun mem => List.mem_map.mpr ⟨_, mem, rfl⟩⟩
  obtain ⟨deed, hdeed, e⟩ := List.mem_map.mp mem
  exact Deed.eq_start_of_event e ▸ hdeed

/-- The run is stopped when it was, or when a deed stopped it. -/
theorem stopped_eq (h : s.Consistent) : t.stopped = (s.stopped || deeds.any (Deed.stops failFast)) := by
  induction course with
  | nil => simp only [List.any_nil, Bool.or_false]
  | cons allowed _ ih =>
    rw [ih (h.step allowed failFast), (h.stepRecord allowed failFast).stopped, List.any_cons, Bool.or_assoc]

/-- A run that is stopped on a course was stopped by a check that failed, under fail-fast. -/
theorem failed_of_stopped (h : s.Consistent) (going : s.stopped = false) (stopped : t.stopped = true) :
    failFast = true ∧ ∃ c, .complete c ∈ deeds ∧ c.result.isFailed = true := by
  rw [course.stopped_eq h, going, Bool.false_or, List.any_eq_true] at stopped
  obtain ⟨deed, hdeed, stops⟩ := stopped
  cases deed with
  | complete c =>
    obtain ⟨under, failed⟩ := Bool.and_eq_true_iff.mp stops
    exact ⟨under, c, hdeed, failed⟩
  | _ => cases stops

/-- The checks that were pending have been skipped or started, or still are pending. -/
theorem pending_perm (h : s.Consistent) : s.pending ~ deeds.filterMap Deed.withdrawn? ++ t.pending := by
  induction course with
  | nil => exact .refl _
  | cons allowed _ ih =>
    rename_i deed rest _
    refine (h.stepRecord allowed failFast).pending.trans (((ih (h.step allowed failFast)).append_left _).trans ?_)
    rw [← List.append_assoc, List.filterMap_cons]
    cases deed.withdrawn? <;> exact .refl _

/-- What is pending keeps its order. -/
theorem pending_sublist (h : s.Consistent) : t.pending.Sublist s.pending := by
  induction course with
  | nil => exact .refl _
  | cons allowed _ ih =>
    refine (ih (h.step allowed failFast)).trans ?_
    cases allowed with
    | ready _ _ _ _ => exact List.filter_sublist
    | inFlight running =>
      rw [after, h.takeIn_eq running]
    | barred pending _ _ | left pending _ _ =>
      rw [after, h.skip_eq pending]
      exact List.filter_sublist

/-- The checks that were in flight or have been started have been completed, or still are in flight. -/
theorem running_perm (h : s.Consistent) :
    s.running ++ deeds.filterMap Deed.started? ~ deeds.filterMap Deed.completed? ++ t.running := by
  induction course with
  | nil => simp only [List.filterMap_nil, List.append_nil, List.nil_append, List.Perm.refl]
  | cons allowed _ ih =>
    rename_i s t deed rest _
    have first := (h.stepRecord allowed failFast).running
    calc s.running ++ (deed :: rest).filterMap Deed.started?
      _ = s.running ++ deed.started?.toList ++ rest.filterMap Deed.started? := by
        rw [List.append_assoc, List.filterMap_cons]
        cases deed.started? <;> rfl
      _ ~ deed.completed?.toList ++ (s.after failFast deed).running ++ rest.filterMap Deed.started? :=
        first.append_right _
      _ ~ deed.completed?.toList ++ (rest.filterMap Deed.completed? ++ t.running) := by
        rw [List.append_assoc]
        exact (ih (h.step allowed failFast)).append_left _
      _ = (deed :: rest).filterMap Deed.completed? ++ t.running := by
        rw [← List.append_assoc, List.filterMap_cons]
        cases deed.completed? <;> rfl

/-- A check leaves the pending ones once. -/
theorem nodup_withdrawn (h : s.Consistent) : (deeds.filterMap Deed.withdrawn?).Nodup :=
  ((course.pending_perm h).nodup_iff.mp h.nodup_pending).sublist (List.sublist_append_left _ _)

/-- A check is not both skipped and started. -/
theorem start_not_mem_of_skip (h : s.Consistent) {id : CheckId} {reason : Omission} (skipped : .skip id reason ∈ deeds) :
    .start id ∉ deeds := fun started =>
  Deed.noConfusion (eq_of_nodup_filterMap (course.nodup_withdrawn h) skipped started rfl rfl)

/-- A check is skipped for one reason only. -/
theorem reason_unique (h : s.Consistent) {id : CheckId} {reason reason' : Omission} (skipped : .skip id reason ∈ deeds)
    (skipped' : .skip id reason' ∈ deeds) : reason = reason' := by
  have same := eq_of_nodup_filterMap (course.nodup_withdrawn h) skipped skipped' rfl rfl
  cases same
  rfl

/-- The scheduler's reasons for a skip make the check out as skipped. -/
theorem verdict_of_skip {id : CheckId} {reason : Omission} (skipped : .skip id reason ∈ deeds) :
    reason.verdict = .skipped := by
  induction course with
  | nil => cases skipped
  | cons allowed _ ih =>
    rcases List.mem_cons.mp skipped with rfl | skipped
    · cases allowed with
      | barred => rfl
      | left =>
        unfold reasonLeft
        split <;> rfl
    · exact ih skipped

/-- With nothing in flight at the beginning, what is completed was started. -/
theorem start_mem_of_complete (h : s.Consistent) (idle : s.running = []) {c : Completion} (completed : .complete c ∈ deeds) :
    .start c.id ∈ deeds := by
  have mem : c.id ∈ s.running ++ deeds.filterMap Deed.started? :=
    (course.running_perm h).mem_iff.mpr (List.mem_append_left _ (List.mem_filterMap.mpr ⟨_, completed, rfl⟩))
  rw [idle, List.nil_append] at mem
  obtain ⟨deed, hdeed, e⟩ := List.mem_filterMap.mp mem
  cases deed with
  | start _ =>
    cases e
    exact hdeed
  | _ => cases e

/-- With nothing in flight at the end, what was in flight has been completed, and what has been started. -/
theorem complete_mem_of_running (h : s.Consistent) (idle' : t.running = []) {id : CheckId}
    (running : id ∈ s.running ∨ .start id ∈ deeds) : ∃ c, .complete c ∈ deeds ∧ c.id = id := by
  have mem : id ∈ s.running ++ deeds.filterMap Deed.started? :=
    List.mem_append.mpr (running.imp_right fun started => List.mem_filterMap.mpr ⟨_, started, rfl⟩)
  rw [(course.running_perm h).mem_iff, idle', List.append_nil] at mem
  obtain ⟨deed, hdeed, e⟩ := List.mem_filterMap.mp mem
  cases deed with
  | complete c => exact ⟨c, hdeed, Option.some.inj e⟩
  | _ => cases e

/-- With nothing in flight at either end, a check was started exactly when it was completed. -/
theorem start_mem_iff (h : s.Consistent) (idle : s.running = []) (idle' : t.running = []) {id : CheckId} :
    .start id ∈ deeds ↔ ∃ c, .complete c ∈ deeds ∧ c.id = id := by
  refine ⟨fun started => course.complete_mem_of_running h idle' (.inr started), ?_⟩
  rintro ⟨c, hc, rfl⟩
  exact course.start_mem_of_complete h idle hc

end Course

end ScheduleState

end GateRunner
