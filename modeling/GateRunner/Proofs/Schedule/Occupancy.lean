import GateRunner.Proofs.Graph.Emission
import GateRunner.Proofs.Schedule.Reachable
import GateRunner.Proofs.Schedule.Replay
import Mathlib.Order.Bounds.Basic

/-!
# Slots and the checks under way

A check is under way from the moment it is seen to start until it is seen to finish. That is read off the events alone
(`underWay`), and so is how many checks have been under way at once (`loads`): after each event there was one such
number. The slots of a schedule keep the same account in two counters, which starts and completions touch at different
places of the loop, one check at a time or a batch at once.

**The law** (`slots_account_for_checks_under_way`): in every state that a run comes to, the slots taken are as many as
the checks under way, never more than the limit, and the peak is the largest such number so far. A slot is only given
back when one is taken, so that giving it back takes exactly one from the count, also while a stopped run is drained.

It holds for all workers. The invariant is `Tracked`, and every allowed deed keeps it (`Tracked.step`).
-/

namespace GateRunner

/-- The checks under way after some events: those seen to start and not to finish, in the order in which they started. -/
def underWay (seen : List Event) : List CheckId :=
  (seen.filterMap Event.started?).filter fun id => id ∉ (seen.filterMap Event.finished?).map (·.check)

/-- How many checks were under way at once, at the beginning of some events and after each of them. -/
def loads (seen : List Event) : Set Nat := {n | ∃ early, early <+: seen ∧ (underWay early).length = n}

theorem underWay_started {seen : List Event} {id : CheckId} (unfinished : id ∉ (seen.filterMap Event.finished?).map (·.check)) :
    underWay (seen ++ [.started id]) = underWay seen ++ [id] := by
  have finished : (seen ++ [Event.started id]).filterMap Event.finished? = seen.filterMap Event.finished? := by
    rw [List.filterMap_append]
    exact List.append_nil _
  have started : (seen ++ [Event.started id]).filterMap Event.started? = seen.filterMap Event.started? ++ [id] :=
    List.filterMap_append
  have kept : [id].filter (fun id => id ∉ (seen.filterMap Event.finished?).map (·.check)) = [id] :=
    List.filter_eq_self.mpr fun other mem => by simpa only [List.mem_singleton.mp mem, decide_eq_true_eq] using unfinished
  rw [underWay, finished, started, List.filter_append, kept]
  rfl

theorem underWay_finished (seen : List Event) (r : CheckResult) :
    underWay (seen ++ [.finished r]) = (underWay seen).filter (· ≠ r.check) := by
  simp only [underWay, List.filterMap_append, List.filterMap_cons, List.filterMap_nil, Event.started?, Event.finished?,
    List.append_nil, List.map_append, List.map_cons, List.map_nil, List.filter_filter]
  refine List.filter_congr fun id _ => ?_
  simp only [List.mem_append, List.mem_singleton, not_or, Bool.decide_and, ne_eq, Bool.and_comm]

theorem loads_snoc (seen : List Event) (event : Event) :
    loads (seen ++ [event]) = insert (underWay (seen ++ [event])).length (loads seen) := by
  ext n
  simp only [loads, Set.mem_ofPred_eq, Set.mem_insert_iff, List.prefix_concat_iff]
  constructor
  · rintro ⟨early, rfl | before, load⟩
    · exact .inl load.symm
    · exact .inr ⟨early, before, load⟩
  · rintro (rfl | ⟨early, before, load⟩)
    · exact ⟨_, .inl rfl, rfl⟩
    · exact ⟨early, .inr before, load⟩

namespace SampleGate

theorem distinct_units : (units.map (·.id)).Nodup := by decide

theorem accepted_units : DependencyGraph.ofAcyclic units = .ok (.ofUnits units) := by decide +kernel

end SampleGate

namespace ScheduleState

variable {failFast : Bool} {s t : ScheduleState} {seen : List Event}

/-- What has been seen since a run began accounts for the state that it has come to. -/
structure Tracked (seen : List Event) (t : ScheduleState) : Prop where
  finished : (seen.filterMap Event.finished?).map (·.check) = t.finished
  running : underWay seen = t.running
  /-- The peak is the largest number of checks that were under way at once. -/
  peak : IsGreatest (loads seen) t.slots.peak

theorem tracked_initial (graph : DependencyGraph) (limit : SlotLimit) (trace : List Event) :
    Tracked [] (initial graph (.ofLimit limit) trace) where
  finished := rfl
  running := rfl
  peak := ⟨⟨[], List.nil_prefix, rfl⟩, by
    rintro n ⟨early, before, rfl⟩
    rw [List.prefix_nil.mp before]
    exact Nat.zero_le _⟩

namespace Tracked

variable (tracked : Tracked seen s) (h : s.Consistent)
include tracked h

/-- A check that finishes is no longer under way, if it was, and the peak stays. -/
theorem finish {r : CheckResult} (finished : t.finished = s.finished ++ [r.check])
    (running : t.running = s.running.erase r.check) (peak : t.slots.peak = s.slots.peak) :
    Tracked (seen ++ [.finished r]) t := by
  have gone : underWay (seen ++ [.finished r]) = t.running := by
    rw [underWay_finished, tracked.running, running, h.nodup_running.erase_eq_filter]
    exact List.filter_congr fun id _ => by by_cases e : id = r.check <;> simp [e]
  refine ⟨?_, gone, ?_⟩
  · rw [List.filterMap_append, List.map_append, tracked.finished, finished]
    rfl
  · -- no more are under way than were before, and that is no more than the peak
    have fewer : (underWay (seen ++ [.finished r])).length ≤ s.slots.peak := by
      rw [underWay_finished]
      exact (List.length_filter_le _ _).trans (tracked.peak.2 ⟨seen, List.prefix_rfl, rfl⟩)
    have greatest := tracked.peak.insert (underWay (seen ++ [.finished r])).length
    rwa [max_eq_right fewer, ← loads_snoc, ← peak] at greatest

/-- A check that starts is under way, in a slot of its own. -/
theorem begin {id : CheckId} (pending : id ∈ s.pending) : Tracked (seen ++ [.started id]) (s.start id) := by
  have grown : underWay (seen ++ [.started id]) = s.running ++ [id] := by
    rw [underWay_started (tracked.finished ▸ h.pending_not_finished pending), tracked.running]
  refine ⟨?_, grown, ?_⟩
  · rw [List.filterMap_append, List.map_append, tracked.finished]
    exact List.append_nil _
  · have greatest := tracked.peak.insert (underWay (seen ++ [.started id])).length
    rw [← loads_snoc, grown, List.length_append, List.length_singleton, ← h.slots, max_comm] at greatest
    exact greatest

/-- **Every allowed deed keeps the account.** -/
theorem step {deed : Deed} (allowed : s.Allows deed) (failFast : Bool) :
    Tracked (seen ++ [deed.event]) (s.after failFast deed) := by
  have skip : ∀ {id : CheckId}, id ∈ s.pending → ∀ reason,
      Tracked (seen ++ [.finished (.skipped id reason)]) (s.skip id reason) := by
    intro id pending reason
    rw [h.skip_eq pending]
    exact tracked.finish h rfl (List.erase_of_not_mem (h.pending_not_running pending)).symm rfl
  cases allowed with
  | barred pending _ _ => exact skip pending _
  | left pending _ _ => exact skip pending _
  | ready pending _ _ _ => exact tracked.begin h pending
  | inFlight running =>
    rename_i c
    rw [show s.after failFast (.complete c) = s.takeIn failFast c from rfl, h.takeIn_eq running]
    exact tracked.finish h rfl rfl rfl

end Tracked

/-- **What is seen on a course keeps the account.** -/
theorem Course.tracked {deeds : List Deed} (course : Course failFast s deeds t) (h : s.Consistent)
    (tracked : Tracked seen s) : Tracked (seen ++ deeds.map Deed.event) t := by
  induction course generalizing seen with
  | nil => simpa only [List.map_nil, List.append_nil] using tracked
  | cons allowed _ ih =>
    rw [List.map_cons, List.append_cons]
    exact ih (h.step allowed failFast) (tracked.step h allowed failFast)

/-- What has happened on a course are the events of its deeds. -/
theorem Course.newsSince_eq {deeds : List Deed} (course : Course failFast s deeds t) (h : s.Consistent) :
    t.newsSince s = deeds.map Deed.event := by
  rw [newsSince, course.trace_eq h, List.drop_left]

/-- A slot is given back only when one is taken. -/
theorem Consistent.release_of_takeIn (h : s.Consistent) (failFast : Bool) (c : Completion) :
    s.takeIn failFast c = s ∨ 0 < s.slots.active ∧ (s.takeIn failFast c).slots.active + 1 = s.slots.active := by
  by_cases running : c.id ∈ s.running
  · have taken : 0 < s.slots.active := by
      rw [h.slots]
      exact List.length_pos_of_mem running
    rw [h.takeIn_eq running]
    exact .inr ⟨taken, Nat.sub_add_cancel taken⟩
  · exact .inl (if_neg running)

/-- **The slots account for the checks under way** in every state that a run comes to, its last one included: as many
are taken, at most as many as there are, the peak is the largest number so far, and what is given back was taken. -/
theorem slots_account_for_checks_under_way {units : List BoundCheck} {graph : DependencyGraph}
    (distinct : (units.map (·.id)).Nodup) (accepted : DependencyGraph.ofAcyclic units = .ok graph) {σ : Type}
    (w : Workers σ) (a : Assignment) (limit : SlotLimit) (seen : List Event) (start : σ) :
    let first := initial graph (.ofLimit limit) seen
    Reachable w a first start (first.loop w a start).state ∧
    ∀ t, Reachable w a first start t →
      let news := t.newsSince first
      t.slots.active = (underWay news).length ∧ t.slots.active ≤ limit.count ∧ IsGreatest (loads news) t.slots.peak ∧
      ∀ failFast c, t.takeIn failFast c = t ∨
        0 < t.slots.active ∧ (t.takeIn failFast c).slots.active + 1 = t.slots.active := by
  intro first
  obtain ⟨rfl, _⟩ := (DependencyGraph.ofAcyclic_eq_ok_iff distinct).mp accepted
  have h : first.Consistent := consistent_initial (DependencyGraph.proper_ofUnits distinct).distinct limit seen
  refine ⟨reachable_loop .here, fun t reachable => ?_⟩
  obtain ⟨deeds, course⟩ := reachable.course h
  have consistent := course.consistent h
  have tracked := course.tracked h (tracked_initial _ limit seen)
  rw [List.nil_append, ← course.newsSince_eq h] at tracked
  refine ⟨?_, ?_, tracked.peak, consistent.release_of_takeIn⟩
  · rw [tracked.running, consistent.slots]
  · have bounded := consistent.bounded
    rwa [course.limit_eq h] at bounded

/-- In the sample gate linting and typing are under way at once, and nothing is at the end. -/
theorem sampleGate_slots :
    let first := initial (.ofUnits SampleGate.units) (.ofLimit ⟨2, by decide⟩) []
    let last := (first.loop (.replay SampleGate.outcome) ⟨SampleGate.units, false, true⟩ (SampleGate.batches true)).state
    last.slots.active = (underWay (last.newsSince first)).length ∧ last.slots.active = 0 ∧
      IsGreatest (loads (last.newsSince first)) last.slots.peak ∧ last.slots.peak = 2 := by
  intro first last
  obtain ⟨reached, account⟩ := slots_account_for_checks_under_way SampleGate.distinct_units SampleGate.accepted_units
    (.replay SampleGate.outcome) ⟨SampleGate.units, false, true⟩ ⟨2, by decide⟩ [] (SampleGate.batches true)
  obtain ⟨taken, _, peak, _⟩ := account last reached
  exact ⟨taken, by decide +kernel, peak, by decide +kernel⟩

end ScheduleState

end GateRunner
