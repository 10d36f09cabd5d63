import GateRunner.Proofs.Schedule.Record
import GateRunner.Schedule.Loop
import Mathlib.Data.List.Find

/-!
# Every run is a course

The loop of a schedule decides for all pending checks at once, skips some, starts some and takes in whole batches. Each
of these comes down to allowed deeds, one after the other (`carried_loop`). What it takes is that a decision stays right
until it is carried out. A check whose dependencies have all finished keeps its prospect while other checks are skipped
or started, because what has finished keeps its result (`prospect_eq_of_recorded`).

Workers appear only through the completions that they hand over: every deed that completes a check takes in a completion
that the workers gave (`Workers.Gives`).
-/

namespace GateRunner

/-- Workers hand over a completion when they are asked to wait, at some time for some checks. -/
def Workers.Gives {σ : Type} (w : Workers σ) (c : Completion) : Prop :=
  ∃ world inFlight, c ∈ (w.await world inFlight).1

namespace ScheduleState

variable {failFast : Bool} {s t : ScheduleState}

/-! ## Decisions stay right -/

theorem result?_eq_of_recorded {r : CheckResult} (results : t.results = s.results ++ [r]) {id : CheckId}
    (other : r.check ≠ id) : t.result? id = s.result? id := by
  have last : [r].find? (fun r => r.check = id) = none :=
    List.find?_eq_none.mpr fun x hx => by simpa only [List.mem_singleton.mp hx, decide_eq_true_eq] using other
  rw [result?, results, List.find?_append, last, Option.or_none]
  rfl

/-- A decision that all dependencies have finished stays as it is when one more check gets a result. -/
theorem prospect_eq_of_recorded {r : CheckResult} (graph : t.graph = s.graph)
    (finished : t.finished = s.finished ++ [r.check]) (results : t.results = s.results ++ [r])
    (fresh : r.check ∉ s.finished) {id : CheckId} (decided : s.prospect id ≠ .waiting) :
    t.prospect id = s.prospect id := by
  have all : (s.graph.dependencies id).all (· ∈ s.finished) = true := by
    by_contra not
    exact decided (by rw [prospect, if_neg not])
  have among : ∀ d ∈ s.graph.dependencies id, d ∈ s.finished := by
    intro d hd
    simpa only [decide_eq_true_eq] using List.all_eq_true.mp all d hd
  have all' : (t.graph.dependencies id).all (· ∈ t.finished) = true := by
    rw [graph, finished]
    exact List.all_eq_true.mpr fun d hd => decide_eq_true (List.mem_append_left _ (among d hd))
  have blocker : t.blocker id = s.blocker id := by
    rw [blocker, blocker, graph]
    refine List.find?_congr fun d hd => ?_
    rw [didNotPass, didNotPass, result?_eq_of_recorded results fun e => fresh (e ▸ among d hd)]
  rw [prospect, prospect, if_pos all, if_pos all', blocker]

/-! ## Dispatch -/

/-- What is known of a dispatch before the ready checks are started. -/
structure Skipped (failFast : Bool) (s t : ScheduleState) (blocked : List (CheckId × CheckId)) : Prop where
  course : Course failFast s (blocked.map fun b => .skip b.1 (.dependencyFailed b.2)) t
  going : t.stopped = false
  running : t.running = s.running
  slots : t.slots = s.slots
  pending : t.pending = s.pending.filter (· ∉ blocked.map (·.1))
  prospect : ∀ id, s.prospect id ≠ .waiting → t.prospect id = s.prospect id

theorem skipBlocked_cons (b : CheckId × CheckId) (rest : List (CheckId × CheckId)) :
    s.skipBlocked (b :: rest) = (s.skip b.1 (.dependencyFailed b.2)).skipBlocked rest := rfl

theorem skipBlocked_spec (h : s.Consistent) (going : s.stopped = false) {blocked : List (CheckId × CheckId)}
    (distinct : (blocked.map (·.1)).Nodup)
    (barred : ∀ b ∈ blocked, b.1 ∈ s.pending ∧ s.prospect b.1 = .barred b.2) :
    Skipped failFast s (s.skipBlocked blocked) blocked := by
  induction blocked generalizing s with
  | nil => exact ⟨.nil s, going, rfl, rfl, by simp [skipBlocked], fun _ _ => rfl⟩
  | cons b rest ih =>
    obtain ⟨fresh, distinct⟩ := List.nodup_cons.mp distinct
    obtain ⟨pending, prospect⟩ := barred b List.mem_cons_self
    have allowed : s.Allows (.skip b.1 (.dependencyFailed b.2)) := .barred pending going prospect
    have shape := h.skip_eq pending (.dependencyFailed b.2)
    have keeps : ∀ id, s.prospect id ≠ .waiting →
        (s.skip b.1 (.dependencyFailed b.2)).prospect id = s.prospect id := fun id decided =>
      prospect_eq_of_recorded (r := .skipped b.1 (.dependencyFailed b.2)) (by rw [shape]) (by rw [shape]; rfl)
        (by rw [shape]) (h.pending_not_finished pending) decided
    -- what becomes of the later checks was decided before this skip, and is not changed by it
    have later := ih (s := s.skip b.1 (.dependencyFailed b.2)) (h.after_skip pending _) (by rw [shape]; exact going)
      distinct fun other hother => by
        obtain ⟨pending', prospect'⟩ := barred other (List.mem_cons_of_mem _ hother)
        refine ⟨?_, (keeps other.1 (by rw [prospect']; exact Prospect.noConfusion)).trans prospect'⟩
        rw [shape]
        exact List.mem_filter.mpr ⟨pending', decide_eq_true fun e => fresh (List.mem_map.mpr ⟨other, hother, e⟩)⟩
    refine ⟨.cons allowed later.course, later.going, ?_, ?_, ?_, fun id decided => ?_⟩
    · rw [skipBlocked_cons, later.running, shape]
    · rw [skipBlocked_cons, later.slots, shape]
    · rw [skipBlocked_cons, later.pending, shape, List.filter_filter]
      refine List.filter_congr fun id _ => Bool.eq_iff_iff.mpr ?_
      simp only [Bool.and_eq_true, decide_eq_true_eq, List.map_cons, List.mem_cons, not_or]
      exact and_comm
    · exact (later.prospect id (by rw [keeps id decided]; exact decided)).trans (keeps id decided)

/-- Starting a check leaves every prospect as it is, since nothing has finished. -/
theorem prospect_start (id other : CheckId) : (s.start id).prospect other = s.prospect other := rfl

/-- The ready checks are started in their order until the slots run out. -/
theorem startReady_course (failFast : Bool) {ids : List CheckId} (going : s.stopped = false) (distinct : ids.Nodup)
    (ready : ∀ id ∈ ids, id ∈ s.pending ∧ s.prospect id = .ready) :
    ∃ started, started <+: ids ∧ Course failFast s (started.map .start) (s.startReady ids) := by
  induction ids generalizing s with
  | nil => exact ⟨[], List.nil_prefix, .nil s⟩
  | cons id rest ih =>
    obtain ⟨fresh, distinct⟩ := List.nodup_cons.mp distinct
    obtain ⟨pending, prospect⟩ := ready id List.mem_cons_self
    rw [startReady]
    by_cases free : s.slots.hasFree = true
    · rw [if_pos free]
      obtain ⟨started, hprefix, course⟩ := ih (s := s.start id) going distinct fun other hother => by
        obtain ⟨pending', prospect'⟩ := ready other (List.mem_cons_of_mem _ hother)
        refine ⟨List.mem_filter.mpr ⟨pending', decide_eq_true fun e => fresh (e ▸ hother)⟩, ?_⟩
        exact (prospect_start id other).trans prospect'
      exact ⟨id :: started, List.cons_prefix_cons.mpr ⟨rfl, hprefix⟩, .cons (.ready pending going free prospect) course⟩
    · rw [if_neg free]
      exact ⟨[], List.nil_prefix, .nil s⟩

/-- Whether a dependency keeps a check from running. -/
def isBarred (s : ScheduleState) (id : CheckId) : Bool :=
  match s.prospect id with
  | .barred _ => true
  | _ => false

theorem map_fst_blocked (s : ScheduleState) : s.blocked.map (·.1) = s.pending.filter s.isBarred := by
  rw [blocked]
  induction s.pending with
  | nil => rfl
  | cons id rest ih =>
    cases prospect : s.prospect id <;>
      simp only [List.filterMap_cons, prospect, List.map_cons, List.filter_cons, isBarred, ih, if_true,
        Bool.false_eq_true, if_false]

theorem mem_blocked {b : CheckId × CheckId} : b ∈ s.blocked ↔ b.1 ∈ s.pending ∧ s.prospect b.1 = .barred b.2 := by
  obtain ⟨id, dependency⟩ := b
  rw [blocked, List.mem_filterMap]
  constructor
  · rintro ⟨other, hother, e⟩
    cases prospect : s.prospect other with
    | barred d =>
      rw [prospect] at e
      cases e
      exact ⟨hother, prospect⟩
    | _ =>
      rw [prospect] at e
      cases e
  · rintro ⟨pending, prospect⟩
    exact ⟨id, pending, by rw [prospect]⟩

theorem mem_ready {id : CheckId} : id ∈ s.ready ↔ id ∈ s.pending ∧ s.prospect id = .ready := by
  rw [ready, List.mem_filter, decide_eq_true_eq]

/-- A dispatch completes nothing. -/
theorem complete_not_mem_dispatched (blocked : List (CheckId × CheckId)) (started : List CheckId) (c : Completion) :
    .complete c ∉ (blocked.map fun b => Deed.skip b.1 (.dependencyFailed b.2)) ++ started.map Deed.start := by
  simp only [List.mem_append, List.mem_map, reduceCtorEq, and_false, exists_false, or_self, not_false_eq_true]

namespace Consistent

variable (h : s.Consistent) (going : s.stopped = false)
include h going

/-- The checks that are blocked are skipped, and everyone else's prospect stays as it was decided. -/
theorem skipBlocked (failFast : Bool) : Skipped failFast s (s.skipBlocked s.blocked) s.blocked := by
  refine skipBlocked_spec h going ?_ fun b hb => mem_blocked.mp hb
  rw [map_fst_blocked]
  exact h.nodup_pending.sublist List.filter_sublist

/-- After the skips, the checks that were found ready still are pending and ready. -/
theorem ready_after_skips {id : CheckId} (hid : id ∈ s.ready) :
    id ∈ (s.skipBlocked s.blocked).pending ∧ (s.skipBlocked s.blocked).prospect id = .ready := by
  obtain ⟨pending, prospect⟩ := mem_ready.mp hid
  have skipped := h.skipBlocked going true
  refine ⟨?_, (skipped.prospect id (by rw [prospect]; exact Prospect.noConfusion)).trans prospect⟩
  rw [skipped.pending, map_fst_blocked]
  refine List.mem_filter.mpr ⟨pending, decide_eq_true fun mem => ?_⟩
  simp only [List.mem_filter, isBarred, prospect, Bool.false_eq_true, and_false] at mem

/-- A dispatch skips checks and then starts checks. -/
theorem dispatch_course (failFast : Bool) : ∃ started, started <+: s.ready ∧
    Course failFast s ((s.blocked.map fun b => .skip b.1 (.dependencyFailed b.2)) ++ started.map .start) s.dispatch := by
  have skipped := h.skipBlocked going failFast
  obtain ⟨started, hprefix, course⟩ := startReady_course failFast skipped.going
    (h.nodup_pending.sublist List.filter_sublist) fun id hid => h.ready_after_skips going hid
  exact ⟨started, hprefix, skipped.course.append course⟩

end Consistent

/-! ## Taking in -/

theorem absorb_cons (failFast : Bool) (c : Completion) (rest : List Completion) :
    s.absorb failFast (c :: rest) = (s.takeIn failFast c).absorb failFast rest := rfl

theorem complete_mem_map {taken : List Completion} {c : Completion} : .complete c ∈ taken.map Deed.complete ↔ c ∈ taken := by
  simp only [List.mem_map, Deed.complete.injEq, exists_eq_right]

/-- Of a batch, what was in flight is completed and the rest changes nothing. If anything was in flight, something is
completed. -/
theorem absorb_course (h : s.Consistent) (failFast : Bool) (batch : List Completion) :
    ∃ taken, taken ⊆ batch ∧ ((∃ c ∈ batch, c.id ∈ s.running) → taken ≠ []) ∧
      Course failFast s (taken.map .complete) (s.absorb failFast batch) := by
  induction batch generalizing s with
  | nil => exact ⟨[], List.Subset.refl _, fun ⟨_, hc, _⟩ => absurd hc List.not_mem_nil, .nil s⟩
  | cons c rest ih =>
    by_cases running : c.id ∈ s.running
    · obtain ⟨taken, sub, _, course⟩ := ih (h.after_complete running failFast)
      exact ⟨c :: taken, List.cons_subset_cons c sub, fun _ => List.cons_ne_nil _ _, .cons (.inFlight running) course⟩
    · have same : s.takeIn failFast c = s := if_neg running
      obtain ⟨taken, sub, some, course⟩ := ih h
      refine ⟨taken, fun x hx => List.mem_cons_of_mem _ (sub hx), fun ⟨x, hx, inFlight⟩ => ?_, ?_⟩
      · rcases List.mem_cons.mp hx with rfl | hx
        · exact absurd inFlight running
        · exact some ⟨x, hx, inFlight⟩
      · rwa [absorb_cons, same]

/-- After a stop it makes no difference whether a failure would stop the run. -/
theorem absorb_of_stopped (stopped : s.stopped = true) (batch : List Completion) :
    s.absorb false batch = s.absorb failFast batch := by
  induction batch generalizing s with
  | nil => rfl
  | cons c rest ih =>
    have same : s.takeIn false c = s.takeIn failFast c := by simp only [takeIn, stopped, Bool.true_or]
    have still : (s.takeIn failFast c).stopped = true := by
      unfold takeIn record
      split
      · split <;> simp only [stopped, Bool.true_or]
      · exact stopped
    rw [absorb_cons, absorb_cons, same, ih still]

/-! ## The end of a run -/

/-- One check that a stop has left pending is skipped. -/
def leave (s : ScheduleState) (id : CheckId) : ScheduleState := s.skip id (s.reasonLeft id)

section

variable (h : s.Consistent) {id : CheckId} (hid : id ∈ s.pending)
include h hid

theorem Consistent.graph_leave : (s.leave id).graph = s.graph := by rw [leave, h.skip_eq hid]

theorem Consistent.running_leave : (s.leave id).running = s.running := by rw [leave, h.skip_eq hid]

theorem Consistent.stopped_leave : (s.leave id).stopped = s.stopped := by rw [leave, h.skip_eq hid]

theorem Consistent.results_leave : (s.leave id).results = s.results ++ [.skipped id (s.reasonLeft id)] := by
  rw [leave, h.skip_eq hid]

end

theorem Consistent.pending_leave (h : s.Consistent) {id : CheckId} {rest : List CheckId}
    (pending : s.pending = id :: rest) : (s.leave id).pending = rest := by
  have fresh : id ∉ rest := (List.nodup_cons.mp (pending ▸ h.nodup_pending)).1
  rw [leave, h.skip_eq (pending ▸ List.mem_cons_self), pending, List.filter_cons_of_neg (by simp)]
  exact List.filter_eq_self.mpr fun other hother => decide_eq_true fun e => fresh (e ▸ hother)

theorem settle_eq_foldl_leave (h : s.Consistent) : s.settle = s.pending.foldl leave s := by
  -- `settle` takes all checks from the pending ones at once, `leave` takes them one by one: so the pending ones differ
  -- on the way, and nothing else
  have general : ∀ (ids : List CheckId) (s : ScheduleState), s.Consistent → s.pending = ids →
      ids.foldl (fun s id => s.record (.skipped id (s.reasonLeft id))) { s with pending := [] } = ids.foldl leave s := by
    intro ids
    induction ids with
    | nil =>
      intro s _ pending
      rw [List.foldl_nil, List.foldl_nil, ← pending]
    | cons id rest ih =>
      intro s h pending
      have hid : id ∈ s.pending := pending ▸ List.mem_cons_self
      have fresh : s.result? id = none := h.result?_eq_none (h.pending_not_finished hid)
      have same : { s with pending := [] }.record (.skipped id (s.reasonLeft id)) =
          { s.leave id with pending := [] } := by
        rw [leave, h.skip_eq hid]
        exact record_of_fresh (r := .skipped id (s.reasonLeft id)) fresh
      have next := ih (s.leave id) (h.after_skip hid _) (h.pending_leave pending)
      rw [← same] at next
      exact next
  exact general s.pending s h rfl

/-- What a stop has left pending is skipped, one check after the other, until nothing is pending. -/
theorem settle_course (h : s.Consistent) (failFast : Bool) (stopped : s.stopped = true) (idle : s.running = []) :
    ∃ deeds, (∀ c, .complete c ∉ deeds) ∧ Course failFast s deeds s.settle ∧ s.settle.pending = [] ∧
      s.settle.running = [] := by
  rw [settle_eq_foldl_leave h]
  generalize pending : s.pending = ids
  induction ids generalizing s with
  | nil => exact ⟨[], fun c => List.not_mem_nil, .nil s, pending, idle⟩
  | cons id rest ih =>
    have hid : id ∈ s.pending := pending ▸ List.mem_cons_self
    obtain ⟨deeds, noCompletion, course, ended⟩ := ih (h.after_skip hid (s.reasonLeft id))
      ((h.stopped_leave hid).trans stopped) ((h.running_leave hid).trans idle) (h.pending_leave pending)
    refine ⟨.skip id (s.reasonLeft id) :: deeds, fun c mem => ?_, .cons (.left hid stopped idle) course, ended⟩
    rcases List.mem_cons.mp mem with e | mem
    · cases e
    · exact noCompletion c mem

/-! ## The loop -/

variable {σ : Type} {w : Workers σ} {a : Assignment}

/-- A course on which every completion was handed over by the workers. -/
def Carried (w : Workers σ) (failFast : Bool) (s t : ScheduleState) : Prop :=
  ∃ deeds, Course failFast s deeds t ∧ ∀ c, .complete c ∈ deeds → w.Gives c

theorem Carried.trans {m : ScheduleState} (first : Carried w failFast s m) (second : Carried w failFast m t) :
    Carried w failFast s t := by
  obtain ⟨before, course, given⟩ := first
  obtain ⟨after, course', given'⟩ := second
  exact ⟨before ++ after, course.append course', fun c hc => (List.mem_append.mp hc).elim (given c) (given' c)⟩

theorem Carried.consistent (carried : Carried w failFast s t) (h : s.Consistent) : t.Consistent := by
  obtain ⟨_, course, _⟩ := carried
  exact course.consistent h

theorem Carried.stopped (carried : Carried w failFast s t) (h : s.Consistent) (stopped : s.stopped = true) :
    t.stopped = true := by
  obtain ⟨_, course, _⟩ := carried
  rw [course.stopped_eq h, stopped, Bool.true_or]

theorem going_of_not (not : ¬ (s.stopped || (s.pending.isEmpty && s.running.isEmpty)) = true) : s.stopped = false := by
  simp only [Bool.or_eq_true, not_or, Bool.not_eq_true] at not
  exact not.1

theorem carried_dispatch (h : s.Consistent) (going : s.stopped = false) : Carried w failFast s s.dispatch := by
  obtain ⟨started, _, course⟩ := h.dispatch_course going failFast
  exact ⟨_, course, fun c hc => absurd hc (complete_not_mem_dispatched _ _ c)⟩

theorem carried_absorb (h : s.Consistent) (failFast : Bool) (world : σ) (inFlight : List CheckId) :
    Carried w failFast s (s.absorb failFast (w.await world inFlight).1) := by
  obtain ⟨taken, sub, _, course⟩ := absorb_course h failFast (w.await world inFlight).1
  exact ⟨_, course, fun c hc => ⟨world, inFlight, sub (complete_mem_map.mp hc)⟩⟩

/-- After a stop, workers that are drained carry the run on as they would have before. -/
theorem carried_absorb_of_stopped (h : s.Consistent) (failFast : Bool) (stopped : s.stopped = true) (world : σ)
    (inFlight : List CheckId) : Carried w failFast s (s.absorb false (w.await world inFlight).1) := by
  rw [absorb_of_stopped stopped]
  exact carried_absorb h failFast world inFlight

theorem fault_eq_none_of_not {e : Ending σ} (not : ¬ (e.fault.isSome || e.state.pending.isEmpty) = true) :
    e.fault = none := by
  simp only [Bool.or_eq_true, not_or, Option.not_isSome_iff_eq_none] at not
  exact not.1

/-- What a run leaves when it ends without a fault: nothing is pending, and nothing is in flight. -/
def Ended (e : Ending σ) : Prop := e.fault = none → e.state.pending = [] ∧ e.state.running = []

/-- Draining takes in completions, after a stop or with nothing in flight. Without a fault, nothing is in flight then. -/
theorem carried_drain (h : s.Consistent) (failFast : Bool) (atEnd : s.stopped = true ∨ s.running = []) (world : σ) :
    Carried w failFast s (drain w a s world).state ∧
      ((drain w a s world).fault = none → (drain w a s world).state.running = []) := by
  fun_induction drain w a s world with
  | case1 s world idle => exact ⟨⟨[], .nil s, fun c hc => absurd hc List.not_mem_nil⟩, fun _ => idle⟩
  | case2 s world busy batch world' given after world'' fewer ih =>
    have stopped : s.stopped = true := atEnd.resolve_right busy
    have taken := carried_absorb_of_stopped (w := w) h failFast stopped world s.running
    rw [given] at taken
    have still : after.stopped = true := taken.stopped h stopped
    obtain ⟨rest, idle⟩ := ih (taken.consistent h) (.inl still)
    exact ⟨taken.trans rest, idle⟩
  | case3 s world busy batch world' given after world'' same =>
    have stopped : s.stopped = true := atEnd.resolve_right busy
    have taken := carried_absorb_of_stopped (w := w) h failFast stopped world s.running
    rw [given] at taken
    exact ⟨taken, fun none => by cases none⟩

/-- What follows the last turn is a course too. -/
theorem carried_close (h : s.Consistent) (atEnd : s.stopped = true ∨ s.running = []) (world : σ) :
    Carried w failFast s (close w a s world).state ∧ Ended (close w a s world) := by
  obtain ⟨drained, idle⟩ := carried_drain (w := w) (a := a) h failFast atEnd world
  fun_cases close w a s world with
  | case1 drained' done =>
    refine ⟨drained, fun none => ⟨?_, idle none⟩⟩
    rw [none] at done
    simpa only [Option.isSome_none, Bool.false_or, List.isEmpty_iff] using done
  | case2 drained' going stopped settled =>
    have none : (drain w a s world).fault = none := fault_eq_none_of_not going
    obtain ⟨deeds, noCompletion, course, ended⟩ :=
      settle_course (drained.consistent h) failFast stopped (idle none)
    exact ⟨drained.trans ⟨deeds, course, fun c hc => absurd hc (noCompletion c)⟩, fun _ => ended⟩
  | case3 drained' going stopped => exact ⟨drained, fun fault => by cases fault⟩

/-- **Every run is a course**, and ends without a fault only when nothing is pending and nothing in flight. -/
theorem carried_loop (h : s.Consistent) (world : σ) :
    Carried w a.failFast s (loop w a s world).state ∧ Ended (loop w a s world) := by
  fun_induction loop w a s world with
  | case1 s world atEnd =>
    have atEnd : s.stopped = true ∨ s.pending = [] ∧ s.running = [] := by
      simpa only [Bool.or_eq_true, Bool.and_eq_true, List.isEmpty_iff] using atEnd
    exact carried_close h (atEnd.imp_right And.right) world
  | case2 s world going sent world' idle fewer ih =>
    have dispatched : Carried w a.failFast s sent := carried_dispatch h (going_of_not going)
    obtain ⟨rest, ended⟩ := ih (dispatched.consistent h)
    exact ⟨dispatched.trans rest, ended⟩
  | case3 s world going sent world' idle same =>
    have dispatched : Carried w a.failFast s sent := carried_dispatch h (going_of_not going)
    obtain ⟨rest, ended⟩ := carried_close (a := a) (dispatched.consistent h) (.inr idle) world'
    exact ⟨dispatched.trans rest, ended⟩
  | case4 s world going sent world' busy batch world'' given after world''' fewer ih =>
    have dispatched : Carried w a.failFast s sent := carried_dispatch h (going_of_not going)
    have taken := carried_absorb (w := w) (dispatched.consistent h) a.failFast world' sent.running
    rw [given] at taken
    obtain ⟨rest, ended⟩ := ih ((dispatched.trans taken).consistent h)
    exact ⟨(dispatched.trans taken).trans rest, ended⟩
  | case5 s world going sent world' busy batch world'' given after world''' same =>
    have dispatched : Carried w a.failFast s sent := carried_dispatch h (going_of_not going)
    have taken := carried_absorb (w := w) (dispatched.consistent h) a.failFast world' sent.running
    rw [given] at taken
    exact ⟨dispatched.trans taken, fun none => by cases none⟩

end ScheduleState

end GateRunner
