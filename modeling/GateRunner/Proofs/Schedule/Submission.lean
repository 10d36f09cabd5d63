import GateRunner.Proofs.Check.Precedence
import GateRunner.Proofs.Schedule.Occupancy
import GateRunner.Proofs.Schedule.Shared

/-!
# Which check starts next, and when

The checks of a run are listed in an order, and the scheduler goes by it. In each turn it looks once at what is pending,
skips what cannot run, and hands the ready checks to the workers in their order as long as there are slots. By the time
a check is handed over, what was seen of the pending ones lies back: others were skipped, and others started. It is still
right. No skip makes another check ready, because what is skipped did not pass, and no start does
(`ReadyAfter.of_append`).

**The law** (`slots_filled_in_order`): whenever the workers are asked to wait in a turn, all slots are taken or no check is
ready; and at every start, no check that is ready stands before the one that starts. So no slot is idle while there is
something to do, and with a single slot the checks start in the order of the list, as far as they are ready. Which check
is ready is read off the events alone.
-/

namespace GateRunner

open scoped List

namespace ScheduleState

variable {graph : DependencyGraph} {limit : SlotLimit} {given : Completion → Prop} {before seen more : List Event}
  {s t : ScheduleState} {id : CheckId}

/-! ## Ready checks -/

/-- A check is ready after what has been seen: it has neither started nor finished, and all that it depends on has
passed. -/
structure ReadyAfter (graph : DependencyGraph) (seen : List Event) (id : CheckId) : Prop extends Founded graph seen id where
  unstarted : .started id ∉ seen

/-- **What is ready was ready before, if nothing has passed in between.** -/
theorem ReadyAfter.of_append (ready : ReadyAfter graph (seen ++ more) id)
    (barren : ∀ r, .finished r ∈ more → r.isPassed = false) : ReadyAfter graph seen id where
  passed d dep := by
    obtain ⟨r, mem, own, passed⟩ := ready.passed d dep
    rcases List.mem_append.mp mem with mem | mem
    · exact ⟨r, mem, own, passed⟩
    · exact absurd passed (Bool.eq_false_iff.mp (barren r mem))
  fresh r mem := ready.fresh r (List.mem_append_left _ mem)
  unstarted mem := ready.unstarted (List.mem_append_left _ mem)

/-- Where all that a check depends on has passed, it may start. -/
theorem prospect_eq_ready (recorded : s.finished = s.results.map (·.check)) (once : (s.results.map (·.check)).Nodup)
    (passed : ∀ d, s.graph.DependsOn id d → s.HasPassed d) : s.prospect id = .ready := by
  have all : (s.graph.dependencies id).all (· ∈ s.finished) = true := List.all_eq_true.mpr fun d dep => by
    obtain ⟨r, mem, rfl, _⟩ := passed d dep
    exact decide_eq_true (recorded ▸ List.mem_map_of_mem mem)
  have unblocked : s.blocker id = none := List.find?_eq_none.mpr fun d dep => by
    obtain ⟨r, mem, rfl, pass⟩ := passed d dep
    rw [didNotPass, result?, CheckId.find?_of_nodup once mem, Option.any_some, pass]
    exact Bool.false_ne_true
  rw [prospect, if_pos all, unblocked]

/-- **The ready checks of a state are those of the list that are ready after what has been seen.** -/
theorem Tally.mem_ready_iff (tally : Tally graph limit given before seen s) :
    id ∈ s.ready ↔ id ∈ graph.order ∧ ReadyAfter graph seen id := by
  rw [mem_ready]
  constructor
  · rintro ⟨pending, ready⟩
    obtain ⟨unstarted, none⟩ := tally.untouched id pending
    refine ⟨tally.pending.subset pending, ⟨fun d dep => ?_, fun r mem own => ?_⟩, unstarted⟩
    · obtain ⟨r, mem, own, passed⟩ := hasPassed_of_ready tally.recorded ready (tally.same ▸ dep)
      exact ⟨r, tally.finished_mem_iff.mpr mem, own, passed⟩
    · exact result?_eq_none_iff.mp none (own ▸ List.mem_map_of_mem (tally.finished_mem_iff.mp mem))
  · rintro ⟨listed, ready⟩
    refine ⟨?_, prospect_eq_ready tally.recorded tally.once fun d dep => ?_⟩
    · rcases tally.placed id listed with pending | running | finished
      · exact pending
      · exact absurd (tally.running id running) ready.unstarted
      · obtain ⟨r, held⟩ := Option.isSome_iff_exists.mp finished
        obtain ⟨mem, own⟩ := mem_of_result? held
        exact absurd own (ready.fresh r (tally.finished_mem_iff.mpr mem))
    · obtain ⟨r, mem, own, passed⟩ := ready.passed d (tally.same ▸ dep)
      exact ⟨r, tally.finished_mem_iff.mp mem, own, passed⟩

/-! ## What each step lets be seen -/

/-- From one state to another nothing is seen but results, and something holds of all of them. -/
def Reports (holds : CheckResult → Prop) (s t : ScheduleState) : Prop :=
  ∃ results : List CheckResult, (∀ r ∈ results, holds r) ∧ t.trace = s.trace ++ results.map .finished

section

variable {holds : CheckResult → Prop}

theorem Reports.refl (s : ScheduleState) : Reports holds s s := ⟨[], by simp, by simp⟩

theorem Reports.trans {m : ScheduleState} (first : Reports holds s m) (second : Reports holds m t) :
    Reports holds s t := by
  obtain ⟨results, all, grown⟩ := first
  obtain ⟨results', all', grown'⟩ := second
  refine ⟨results ++ results', fun r mem => (List.mem_append.mp mem).elim (all r) (all' r), ?_⟩
  rw [grown', grown, List.map_append, List.append_assoc]

theorem reports_record {r : CheckResult} (held : holds r) : Reports holds s (s.record r) := by
  rw [record]
  split
  · exact .refl s
  · exact ⟨[r], fun other mem => List.mem_singleton.mp mem ▸ held, rfl⟩

end

/-- What is skipped did not pass. -/
theorem reports_skipBlocked (s : ScheduleState) (blocked : List (CheckId × CheckId)) :
    Reports (fun r => r.isPassed = false) s (s.skipBlocked blocked) := by
  induction blocked generalizing s with
  | nil => exact .refl s
  | cons b rest ih => exact Reports.trans (m := s.skip b.1 (.dependencyFailed b.2)) (reports_record rfl) (ih _)

theorem reports_takeIn (s : ScheduleState) (failFast : Bool) (c : Completion) :
    Reports (fun _ => True) s (s.takeIn failFast c) := by
  rw [takeIn]
  split
  · exact reports_record trivial
  · exact .refl s

theorem reports_settle (s : ScheduleState) : Reports (fun _ => True) s s.settle := by
  have general (ids : List CheckId) (t : ScheduleState) :
      Reports (fun _ => True) t (ids.foldl (fun s id => s.record (.skipped id (s.reasonLeft id))) t) := by
    induction ids generalizing t with
    | nil => exact .refl t
    | cons id rest ih => exact (reports_record trivial).trans (ih _)
  exact general s.pending { s with pending := [] }

/-- The first of some checks start: all of them, unless the slots run out. -/
theorem startReady_trace (s : ScheduleState) (ids : List CheckId) :
    ∃ started, started <+: ids ∧ (s.startReady ids).trace = s.trace ++ started.map .started ∧
      (started = ids ∨ (s.startReady ids).slots.hasFree = false) := by
  induction ids generalizing s with
  | nil => exact ⟨[], List.nil_prefix, (List.append_nil _).symm, .inl rfl⟩
  | cons id rest ih =>
    rw [startReady]
    by_cases free : s.slots.hasFree = true
    · obtain ⟨started, leading, grown, full⟩ := ih (s.start id)
      rw [if_pos free]
      exact ⟨id :: started, List.cons_prefix_cons.mpr ⟨rfl, leading⟩, grown.trans (List.append_assoc ..),
        full.imp_left (congrArg (id :: ·))⟩
    · rw [if_neg free]
      exact ⟨[], List.nil_prefix, (List.append_nil _).symm, .inr (Bool.eq_false_iff.mpr free)⟩

/-- In a dispatch, results of checks that did not pass are seen and then starts of the first of the ready checks. -/
theorem dispatch_trace (s : ScheduleState) (ids : List CheckId) :
    ∃ left : List CheckResult, ∃ started, (∀ r ∈ left, r.isPassed = false) ∧ started <+: ids ∧
      ((s.skipBlocked s.blocked).startReady ids).trace = s.trace ++ (left.map .finished ++ started.map .started) ∧
      (started = ids ∨ ((s.skipBlocked s.blocked).startReady ids).slots.hasFree = false) := by
  obtain ⟨left, barren, skipped⟩ := reports_skipBlocked s s.blocked
  obtain ⟨started, leading, grown, full⟩ := (s.skipBlocked s.blocked).startReady_trace ids
  exact ⟨left, started, barren, leading, by rw [grown, skipped, List.append_assoc], full⟩

/-- Nothing passes in a dispatch. -/
theorem barren_dispatch {left : List CheckResult} {started : List CheckId} (barren : ∀ r ∈ left, r.isPassed = false)
    (r : CheckResult) (mem : .finished r ∈ left.map Event.finished ++ started.map Event.started) : r.isPassed = false := by
  simp only [List.mem_append, List.mem_map, Event.finished.injEq, exists_eq_right, reduceCtorEq, and_false, exists_false,
    or_false] at mem
  exact barren r mem

/-! ## Starts in order -/

/-- Whenever a check was seen to start, none that was ready stood before it. -/
def InOrder (graph : DependencyGraph) (seen : List Event) : Prop :=
  ∀ early id, early ++ [.started id] <+: seen → ∀ other, Precedes graph.order other id → ¬ ReadyAfter graph early other

theorem InOrder.report (inOrder : InOrder graph seen) (results : List CheckResult) :
    InOrder graph (seen ++ results.map .finished) := by
  intro early id begun
  rcases prefix_append_cases begun with within | ⟨_, mem⟩
  · exact inOrder early id within
  · obtain ⟨_, _, e⟩ := List.mem_map.mp mem
    cases e

namespace Tally

variable (tally : Tally graph limit given before seen s)
include tally

/-- The events of a later state are those of an earlier one and what was seen since. -/
theorem seen_eq {seen' : List Event} (tally' : Tally graph limit given before seen' t) (grown : t.trace = s.trace ++ more) :
    seen' = seen ++ more := by
  rw [tally.trace, tally'.trace, List.append_assoc] at grown
  exact List.append_cancel_left grown

theorem newsSince_initial : s.newsSince (initial graph (.ofLimit limit) before) = seen := by
  rw [newsSince, tally.trace]
  exact List.drop_left

/-- A check that is ready and stands before a ready one is ready itself, and stands before it among the ready ones. -/
theorem mem_of_ready {early late : List CheckId} (distinct : graph.order.Nodup) (ready : s.ready = early ++ id :: late)
    {other : CheckId} (first : Precedes graph.order other id) (waits : ReadyAfter graph seen other) : other ∈ early :=
  mem_of_precedes distinct (ready ▸ List.filter_sublist.trans tally.pending)
    (ready ▸ tally.mem_ready_iff.mpr ⟨first.mem, waits⟩) first

/-- **Starting the first of the ready checks keeps the order.** None of them was made ready by the skips before. -/
theorem inOrder_dispatch (distinct : graph.order.Nodup) (inOrder : InOrder graph seen) {left : List CheckResult}
    {started : List CheckId} (barren : ∀ r ∈ left, r.isPassed = false) (leading : started <+: s.ready) :
    InOrder graph (seen ++ (left.map .finished ++ started.map .started)) := by
  intro early id begun other first waits
  rw [← List.append_assoc] at begun
  rcases prefix_append_cases begun with within | ⟨⟨mid, rfl⟩, _⟩
  · exact inOrder.report left early id within other first waits
  · rw [List.append_assoc _ mid, List.prefix_append_right_inj] at begun
    obtain ⟨part, leads, same⟩ := List.prefix_map_iff.mp begun
    obtain ⟨sent, last, rfl, rfl, this⟩ := List.map_eq_append_iff.mp same.symm
    obtain ⟨_, rfl, e⟩ := List.map_eq_singleton_iff.mp this
    cases e
    obtain ⟨rest, shape⟩ := leads.trans leading
    rw [List.append_assoc] at shape waits
    have mem := tally.mem_of_ready distinct shape.symm first (waits.of_append (barren_dispatch barren))
    exact waits.unstarted (List.mem_append_right _ (List.mem_append_right _ (List.mem_map_of_mem mem)))

end Tally

variable {σ : Type} {w : Workers σ} {a : Assignment} {start : σ}

/-- **In every state that a run comes to, the checks have started in order.** -/
theorem Reachable.inOrder (reachable : Reachable w a (initial graph (.ofLimit limit) before) start t)
    (distinct : graph.order.Nodup) :
    ∃ seen, Tally graph limit (Answered w a (initial graph (.ofLimit limit) before) start) before seen t ∧
      InOrder graph seen := by
  refine Reachable.keeps (P := fun s => ∃ seen, Tally graph limit _ before seen s ∧ InOrder graph seen)
    ⟨[], tally_initial graph limit _ before, fun early id begun => ?_⟩ ?_ ?_ ?_ ?_ reachable
  · exact absurd (begun.subset (List.mem_append_right _ List.mem_cons_self)) List.not_mem_nil
  · intro s part ⟨seen, tally, inOrder⟩ begun
    obtain ⟨seen', tally'⟩ := tally.skip_some begun
    obtain ⟨left, _, grown⟩ := reports_skipBlocked s part
    exact ⟨seen', tally', tally.seen_eq tally' grown ▸ inOrder.report left⟩
  · intro s part ⟨seen, tally, inOrder⟩ begun
    obtain ⟨seen', tally'⟩ := tally.start_some begun
    obtain ⟨left, started, barren, leading, grown, _⟩ := s.dispatch_trace part
    exact ⟨seen', tally', tally.seen_eq tally' grown ▸
      tally.inOrder_dispatch distinct inOrder barren (leading.trans begun)⟩
  · intro s c ⟨seen, tally, inOrder⟩ answered failFast
    obtain ⟨seen', tally'⟩ := tally.takeIn answered failFast
    obtain ⟨results, _, grown⟩ := s.reports_takeIn failFast c
    exact ⟨seen', tally', tally.seen_eq tally' grown ▸ inOrder.report results⟩
  · intro s ⟨seen, tally, inOrder⟩
    obtain ⟨seen', tally'⟩ := tally.settle
    obtain ⟨results, _, grown⟩ := s.reports_settle
    exact ⟨seen', tally', tally.seen_eq tally' grown ▸ inOrder.report results⟩

/-- What a turn that is not the last one does with the checks that are ready when it begins, up to the moment in which it
asks its workers to wait. -/
structure FillsSlots (graph : DependencyGraph) (limit : SlotLimit) (first s : ScheduleState) : Prop where
  /-- The workers are asked to wait for the checks that are under way by what has been seen. -/
  underWay : s.dispatch.running = underWay (s.dispatch.newsSince first)
  /-- As many are under way as there are slots, or no check is ready. -/
  full : s.dispatch.running.length = limit.count ∨ ∀ id ∈ graph.order, ¬ ReadyAfter graph (s.dispatch.newsSince first) id
  /-- With a check, all those start that were ready at the beginning of the turn and stand before it. -/
  inOrder : ∀ id ∈ (s.dispatch.newsSince s).filterMap Event.started?, ∀ other, Precedes graph.order other id →
    ReadyAfter graph (s.newsSince first) other → other ∈ (s.dispatch.newsSince s).filterMap Event.started?

theorem Turns.fillsSlots {world : σ} (turns : Turns w a (initial graph (.ofLimit limit) before) start s world)
    (going : s.isOver = false) (distinct : graph.order.Nodup) :
    FillsSlots graph limit (initial graph (.ofLimit limit) before) s := by
  have sent : Reachable w a (initial graph (.ofLimit limit) before) start s.dispatch :=
    .starting turns going (List.prefix_refl _)
  obtain ⟨seen, tally, _⟩ := turns.reachable.inOrder distinct
  obtain ⟨seen', tally', _⟩ := sent.inOrder distinct
  obtain ⟨left, started, barren, leading, grown, full⟩ := s.dispatch_trace s.ready
  have grown : s.dispatch.trace = s.trace ++ (left.map .finished ++ started.map .started) := grown
  obtain rfl : seen' = seen ++ (left.map .finished ++ started.map .started) := tally.seen_eq tally' grown
  have begun : (s.dispatch.newsSince s).filterMap Event.started? = started := by
    rw [newsSince, grown, List.drop_left, List.filterMap_append, List.filterMap_map, List.filterMap_map,
      show Event.started? ∘ Event.started = some from rfl, List.filterMap_some, List.append_left_eq_self]
    exact List.filterMap_eq_nil_iff.mpr fun r _ => rfl
  have h : (initial graph (.ofLimit limit) before).Consistent := consistent_initial distinct limit before
  obtain ⟨deeds, course⟩ := sent.course h
  have consistent := course.consistent h
  have tracked := course.tracked h (tracked_initial graph limit before)
  rw [List.nil_append, ← course.newsSince_eq h] at tracked
  refine ⟨tracked.running.symm, ?_, ?_⟩
  · rw [tally'.newsSince_initial]
    rcases full with rfl | full
    · -- all ready checks have started, and none has become ready since
      refine .inr fun id listed ready => ready.unstarted ?_
      have ready' : id ∈ s.ready := tally.mem_ready_iff.mpr ⟨listed, ready.of_append (barren_dispatch barren)⟩
      exact List.mem_append_right _ (List.mem_append_right _ (List.mem_map_of_mem ready'))
    · refine .inl ?_
      have bounded := consistent.bounded
      have taken : ¬ s.dispatch.slots.active < s.dispatch.slots.limit.count := of_decide_eq_false full
      rw [consistent.slots, tally'.slots] at bounded taken
      omega
  · rw [begun, tally.newsSince_initial]
    intro id mem other first waits
    obtain ⟨early, late, rfl⟩ := List.append_of_mem mem
    obtain ⟨rest, shape⟩ := leading
    rw [List.append_assoc] at shape
    exact List.mem_append_left _ (tally.mem_of_ready distinct shape.symm first waits)

/-- **Slots are filled, and in the order of the list**, for all workers and however the run ends: whenever the workers are
asked to wait in a turn all slots are taken or no check is ready, and every check that starts is ready, with no ready
check before it. -/
theorem slots_filled_in_order {units : List BoundCheck} {graph : DependencyGraph} (distinct : (units.map (·.id)).Nodup)
    (accepted : DependencyGraph.ofAcyclic units = .ok graph) (w : Workers σ) (a : Assignment) (limit : SlotLimit)
    (before : List Event) (start : σ) :
    let first := initial graph (.ofLimit limit) before
    graph.order = units.map (·.id) ∧
    (∀ s world, Turns w a first start s world → s.isOver = false → FillsSlots graph limit first s) ∧
    Reachable w a first start (first.loop w a start).state ∧
    ∀ t, Reachable w a first start t → ∀ early id late, t.newsSince first = early ++ .started id :: late →
      ReadyAfter graph early id ∧ ∀ other, Precedes (units.map (·.id)) other id → ¬ ReadyAfter graph early other := by
  intro first
  obtain ⟨rfl, _⟩ := (DependencyGraph.ofAcyclic_eq_ok_iff distinct).mp accepted
  have listed : (DependencyGraph.ofUnits units).order = units.map (·.id) := DependencyGraph.order_ofUnits units
  have distinct' : (DependencyGraph.ofUnits units).order.Nodup := listed ▸ distinct
  refine ⟨listed, fun s world turns going => turns.fillsSlots going distinct', reachable_loop .here,
    fun t reachable early id late split => ?_⟩
  obtain ⟨seen, tally, inOrder⟩ := reachable.inOrder distinct'
  obtain rfl : seen = early ++ .started id :: late := tally.newsSince_initial.symm.trans split
  have begun : early ++ [.started id] <+: early ++ .started id :: late := ⟨late, by simp⟩
  refine ⟨⟨tally.founded early id begun, fun again => ?_⟩, listed ▸ inOrder early id begun⟩
  -- an id that is listed once starts once
  have once := tally.nodup_starts distinct'
  rw [List.filterMap_append] at once
  exact (List.nodup_append.mp once).2.2 id (mem_filterMap_started?.mpr again) id List.mem_cons_self rfl

/-- With one slot the checks of the sample gate start in the order in which they are listed. Only the tests never do,
because linting fails. -/
theorem sampleGate_in_order :
    let first := initial (.ofUnits SampleGate.units) (.ofLimit ⟨1, by decide⟩) []
    let last := (first.loop (.replay SampleGate.outcome) ⟨SampleGate.units, false, false⟩ []).state
    FillsSlots (.ofUnits SampleGate.units) ⟨1, by decide⟩ first first ∧ first.dispatch.running = [⟨"python", "format"⟩] ∧
      ((last.newsSince first).filterMap Event.started?).map (·.name) = ["format", "lint", "types", "docs", "audit"] ∧
      ∀ early id late, last.newsSince first = early ++ .started id :: late →
        ReadyAfter (.ofUnits SampleGate.units) early id ∧
          ∀ other, Precedes (SampleGate.units.map (·.id)) other id →
            ¬ ReadyAfter (.ofUnits SampleGate.units) early other := by
  intro first last
  obtain ⟨_, turns, reached, starts⟩ := slots_filled_in_order SampleGate.distinct_units SampleGate.accepted_units
    (.replay SampleGate.outcome) ⟨SampleGate.units, false, false⟩ ⟨1, by decide⟩ [] []
  exact ⟨turns first [] .here (by decide), by decide +kernel, by decide +kernel, starts last reached⟩

end ScheduleState

end GateRunner
