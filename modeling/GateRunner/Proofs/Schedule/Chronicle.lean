import GateRunner.Proofs.Schedule.History
import GateRunner.Proofs.Schedule.Shared

/-!
# The scheduler and its workers, side by side

A step of the scheduler shows some results and some starts, in this order, and the workers are told of them. Whoever
looks at the workers sees a history go on; whoever looks at the scheduler sees the tally. `Chronicle` holds the two
together: what the workers have been handed are the checks that have been seen to start, what they have answered is all
that the results come from, and what is in flight for them is what the scheduler has in flight.

**The law** (`Chronicled.loop`): every run has a chronicle from its beginning to its end, over all workers and all
checks, distinct or not. So workers that are diligent wherever they can get answer at every wait of the run
(`Workers.Diligent.responsive`), and of faithful workers all that is answered in the run is as it should be
(`Workers.Faithful.result_eq`).
-/

namespace GateRunner

namespace ScheduleState

variable {s : ScheduleState}

/-! ## What a step shows -/

/-- A step shows some results and then some starts; what it starts was pending, and what it ends is no longer in
flight. -/
structure Shows (s t : ScheduleState) (started ended : List CheckId) : Prop where
  trace : ∃ results : List CheckResult, t.trace = s.trace ++ (results.map .finished ++ started.map .started)
  running : t.running = (s.running ++ started).diff ended
  pending : started ⊆ s.pending

theorem Shows.filterMap_started? {t : ScheduleState} {started ended : List CheckId} (shows : Shows s t started ended) :
    (t.newsSince s).filterMap Event.started? = started := by
  obtain ⟨results, trace⟩ := shows.trace
  have quiet : (results.map Event.finished).filterMap Event.started? = [] :=
    List.filterMap_eq_nil_iff.mpr fun event mem => by
      obtain ⟨_, _, rfl⟩ := List.mem_map.mp mem
      rfl
  rw [newsSince, trace, List.drop_left, List.filterMap_append, quiet, List.nil_append, List.filterMap_map]
  exact List.filterMap_some

theorem Shows.trace_eq {t : ScheduleState} {started ended : List CheckId} (shows : Shows s t started ended) :
    t.trace = s.trace ++ t.newsSince s := by
  obtain ⟨results, trace⟩ := shows.trace
  rw [newsSince, trace, List.drop_left]

theorem exists_trace_record (s : ScheduleState) (r : CheckResult) :
    ∃ results : List CheckResult, (s.record r).trace = s.trace ++ results.map .finished := by
  rw [record]
  split
  · exact ⟨[], (List.append_nil _).symm⟩
  · exact ⟨[r], rfl⟩

/-- Recording one result after the other shows results only. -/
theorem exists_trace_foldl {α : Type} {step : ScheduleState → α → ScheduleState}
    (one : ∀ s a, ∃ results : List CheckResult, (step s a).trace = s.trace ++ results.map .finished) (items : List α)
    (s : ScheduleState) : ∃ results : List CheckResult, (items.foldl step s).trace = s.trace ++ results.map .finished := by
  induction items generalizing s with
  | nil => exact ⟨[], (List.append_nil _).symm⟩
  | cons item rest ih =>
    obtain ⟨results, first⟩ := one s item
    obtain ⟨more, later⟩ := ih (step s item)
    exact ⟨results ++ more, by rw [List.foldl_cons, later, first, List.map_append, List.append_assoc]⟩

theorem running_skipBlocked (s : ScheduleState) (blocked : List (CheckId × CheckId)) :
    (s.skipBlocked blocked).running = s.running := by
  induction blocked generalizing s with
  | nil => rfl
  | cons b rest ih => exact (ih (s.skip b.1 (.dependencyFailed b.2))).trans (running_record _ _)

theorem shows_dispatch (s : ScheduleState) : ∃ started, Shows s s.dispatch started [] := by
  obtain ⟨started, leading, _, slots, _, shape⟩ := (s.skipBlocked s.blocked).exists_startReady s.ready
  obtain ⟨results, trace⟩ := exists_trace_foldl
    (fun s (b : CheckId × CheckId) => (s.withdraw b.1).exists_trace_record (.skipped b.1 (.dependencyFailed b.2)))
    s.blocked s
  refine ⟨started, ⟨results, ?_⟩, ?_, fun id mem => (mem_ready.mp (leading.subset mem)).1⟩
  · rw [dispatch, shape, ← List.append_assoc, ← trace]
    rfl
  · rw [dispatch, shape, List.diff_nil, ← running_skipBlocked s s.blocked]

theorem takeIn_shows (failFast : Bool) (s : ScheduleState) (c : Completion) :
    (∃ results : List CheckResult, (s.takeIn failFast c).trace = s.trace ++ results.map .finished) ∧
      (s.takeIn failFast c).running = s.running.erase c.id := by
  rw [takeIn]
  split
  · exact ⟨exists_trace_record _ _, running_record _ _⟩
  · exact ⟨⟨[], (List.append_nil _).symm⟩, (List.erase_of_not_mem ‹_›).symm⟩

theorem shows_absorb (s : ScheduleState) (failFast : Bool) (batch : List Completion) :
    Shows s (s.absorb failFast batch) [] (batch.map (·.id)) := by
  obtain ⟨results, trace⟩ := exists_trace_foldl (fun s c => (takeIn_shows failFast s c).1) batch s
  refine ⟨⟨results, trace.trans ?_⟩, ?_, List.nil_subset _⟩
  · rw [List.map_nil, List.append_nil]
  · rw [List.append_nil]
    clear trace
    induction batch generalizing s with
    | nil => rfl
    | cons c rest ih => rw [absorb_cons, ih, (takeIn_shows failFast s c).2, List.map_cons, List.diff_cons]

theorem shows_settle (s : ScheduleState) : Shows s s.settle [] [] := by
  obtain ⟨results, trace⟩ := exists_trace_foldl
    (fun (s : ScheduleState) id => s.exists_trace_record (.skipped id (s.reasonLeft id))) s.pending { s with pending := [] }
  refine ⟨⟨results, trace.trans ?_⟩, ?_, List.nil_subset _⟩
  · rw [List.map_nil, List.append_nil]
  · rw [List.append_nil, List.diff_nil, s.settle_left.2]

/-! ## The chronicle -/

/-- Results come from more answers as well. -/
theorem Tally.mono {graph : DependencyGraph} {limit : SlotLimit} {given given' : Completion → Prop}
    {before seen : List Event} (tally : Tally graph limit given before seen s) (more : ∀ c, given c → given' c) :
    Tally graph limit given' before seen s where
  __ := tally
  sources r hr := (tally.sources r hr).imp_left fun ⟨started, c, answer, own⟩ => ⟨started, c, more c answer, own⟩

theorem Tally.absorb {graph : DependencyGraph} {limit : SlotLimit} {given : Completion → Prop} {before seen : List Event}
    (tally : Tally graph limit given before seen s) {batch : List Completion} (answers : ∀ c ∈ batch, given c)
    (failFast : Bool) : ∃ seen', Tally graph limit given before seen' (s.absorb failFast batch) := by
  induction batch generalizing s seen with
  | nil => exact ⟨seen, tally⟩
  | cons c rest ih =>
    obtain ⟨seen', tally'⟩ := tally.takeIn (answers c List.mem_cons_self) failFast
    exact ih tally' fun other mem => answers other (List.mem_cons_of_mem _ mem)

variable {σ : Type}

/-- How the scheduler and its workers have come to where they are. -/
structure Chronicle (w : Workers σ) (a : Assignment) (origin : σ) (graph : DependencyGraph) (limit : SlotLimit)
    (before : List Event) (given : List (BoundCheck × Bool)) (answers : List Completion) (seen : List Event)
    (s : ScheduleState) (world : σ) : Prop where
  history : w.History origin given answers s.running world
  tally : Tally graph limit (· ∈ answers) before seen s
  /-- What has been handed over are the checks that have been seen to start. -/
  starts : given.map (·.1.id) = seen.filterMap Event.started?
  own : given ⊆ a.jobs

/-- The scheduler and its workers have a chronicle. -/
def Chronicled (w : Workers σ) (a : Assignment) (origin : σ) (graph : DependencyGraph) (limit : SlotLimit)
    (before : List Event) (s : ScheduleState) (world : σ) : Prop :=
  ∃ given answers seen, Chronicle w a origin graph limit before given answers seen s world

variable {w : Workers σ} {a : Assignment} {origin start world : σ} {graph : DependencyGraph} {limit : SlotLimit}
  {before : List Event}

/-- The graph of some checks has nothing but these. -/
theorem exists_unit_of_mem_order (a : Assignment) :
    ∀ id ∈ (DependencyGraph.ofUnits a.units).order, ∃ i ∈ a.units, i.id = id := fun _ mem =>
  List.mem_map.mp (DependencyGraph.order_ofUnits a.units ▸ mem)

theorem chronicle_initial (history : w.History origin [] [] [] start) :
    Chronicle w a origin graph limit before [] [] [] (initial graph (.ofLimit limit) before) start :=
  ⟨history, tally_initial graph limit _ before, rfl, List.nil_subset _⟩

theorem chronicled_initial (history : w.History origin [] [] [] start) :
    Chronicled w a origin graph limit before (initial graph (.ofLimit limit) before) start :=
  ⟨[], [], [], chronicle_initial history⟩

variable (known : ∀ id ∈ graph.order, ∃ i ∈ a.units, i.id = id)
include known

/-- A step that the workers have been told of goes on with the chronicle. -/
theorem Chronicle.tell {t : ScheduleState} {given : List (BoundCheck × Bool)} {answers : List Completion}
    {seen seen' : List Event} {started ended : List CheckId}
    (history : w.History origin given answers (s.running.diff ended) world) (shows : Shows s t started ended)
    (tally : Tally graph limit (· ∈ answers) before seen s) (tally' : Tally graph limit (· ∈ answers) before seen' t)
    (starts : given.map (·.1.id) = seen.filterMap Event.started?) (own : given ⊆ a.jobs)
    (apart : ended = [] ∨ started = []) :
    Chronicled w a origin graph limit before t (ScheduleState.tell w a world (t.newsSince s)) := by
  have news := shows.filterMap_started?
  have seen_eq : seen' = seen ++ t.newsSince s := by
    have trace := shows.trace_eq
    rw [tally.trace, tally'.trace, List.append_assoc] at trace
    exact List.append_cancel_left trace
  have known' : ∀ id ∈ (t.newsSince s).filterMap Event.started?, ∃ i ∈ a.units, i.id = id := fun id mem =>
    known id (tally.pending.subset (shows.pending (news ▸ mem)))
  obtain ⟨more, among, ids, history'⟩ := history.tell known'
  refine ⟨given ++ more, answers, seen', ?_, tally', ?_, List.append_subset.mpr ⟨own, among⟩⟩
  · have running : s.running.diff ended ++ started = t.running := by
      rw [shows.running]
      rcases apart with rfl | rfl
      · rw [List.diff_nil, List.diff_nil]
      · rw [List.append_nil, List.append_nil]
    rwa [news, running] at history'
  · rw [List.map_append, starts, ids, seen_eq, List.filterMap_append]

namespace Chronicled

/-- A dispatch goes on with the chronicle. -/
theorem dispatch (chronicled : Chronicled w a origin graph limit before s world) :
    Chronicled w a origin graph limit before s.dispatch (ScheduleState.tell w a world (s.dispatch.newsSince s)) := by
  obtain ⟨given, answers, seen, history, tally, starts, own⟩ := chronicled
  obtain ⟨started, shows⟩ := s.shows_dispatch
  obtain ⟨seen', tally'⟩ := tally.start_some (List.prefix_refl _)
  exact Chronicle.tell known (by rwa [List.diff_nil]) shows tally tally' starts own (.inl rfl)

/-- A wait goes on with the chronicle. -/
theorem absorb (chronicled : Chronicled w a origin graph limit before s world) (failFast : Bool) :
    let answer := w.await world s.running
    let after := s.absorb failFast answer.1
    Chronicled w a origin graph limit before after (ScheduleState.tell w a answer.2 (after.newsSince s)) := by
  intro answer after
  obtain ⟨given, answers, seen, history, tally, starts, own⟩ := chronicled
  have more := tally.mono fun c (mem : c ∈ answers) => List.mem_append_left answer.1 mem
  obtain ⟨seen', tally'⟩ := more.absorb (fun c mem => List.mem_append_right answers mem) failFast
  exact Chronicle.tell known history.waited (s.shows_absorb failFast answer.1) more tally' starts own (.inr rfl)

theorem settle (chronicled : Chronicled w a origin graph limit before s world) :
    Chronicled w a origin graph limit before s.settle (ScheduleState.tell w a world (s.settle.newsSince s)) := by
  obtain ⟨given, answers, seen, history, tally, starts, own⟩ := chronicled
  obtain ⟨seen', tally'⟩ := tally.settle
  exact Chronicle.tell known (by rwa [List.diff_nil]) s.shows_settle tally tally' starts own (.inl rfl)

theorem turn (chronicled : Chronicled w a origin graph limit before s world) :
    Chronicled w a origin graph limit before (s.turn w a world).1 (s.turn w a world).2 := by
  by_cases idle : s.dispatch.running = []
  · rw [turn_of_idle idle]
    exact chronicled.dispatch known
  · rw [turn_of_busy idle]
    exact (chronicled.dispatch known).absorb known a.failFast

variable {first : ScheduleState} (begun : Chronicled w a origin graph limit before first start)
include begun

theorem turns (turns : Turns w a first start s world) : Chronicled w a origin graph limit before s world := by
  induction turns with
  | here => exact begun
  | turn _ _ ih => exact ih.turn known

theorem drains (drains : Drains w a first start s world) : Chronicled w a origin graph limit before s world := by
  induction drains with
  | begin turns _ => exact begun.turns known turns
  | wait _ _ ih => exact ih.absorb known false

/-- At every wait of a run, what is in flight for the workers is what they are asked to wait for. -/
theorem waits {inFlight : List CheckId} (waits : Waits w a first start world inFlight) :
    ∃ given answers, w.History origin given answers inFlight world ∧ given ⊆ a.jobs := by
  cases waits with
  | inTurn turns _ _ =>
    obtain ⟨given, answers, _, history, _, _, own⟩ := (begun.turns known turns).dispatch known
    exact ⟨given, answers, history, own⟩
  | atEnd drains _ =>
    obtain ⟨given, answers, _, history, _, _, own⟩ := begun.drains known drains
    exact ⟨given, answers, history, own⟩

theorem close (drains : Drains w a first start s world) :
    Chronicled w a origin graph limit before (close w a s world).state (close w a s world).world := by
  have drained := begun.drains known (drains_drain drains).1
  fun_cases ScheduleState.close w a s world with
  | case1 => exact drained
  | case2 drained' going stopped settled => exact drained.settle known
  | case3 => exact drained

/-- **A run has a chronicle up to its end.** -/
theorem loop (turns : Turns w a first start s world) :
    Chronicled w a origin graph limit before (loop w a s world).state (loop w a s world).world := by
  obtain ⟨last, now, turns', ⟨atEnd, same⟩ | ⟨e, same⟩⟩ := turns.loop_cases
  · rw [same]
    exact begun.close known (.begin turns' atEnd)
  · rw [same]
    exact begun.turns known turns'

end Chronicled

end ScheduleState

/-! ## Workers that are asked only where they can get -/

namespace Workers

open ScheduleState

variable {σ : Type} {w : Workers σ} {a : Assignment} {origin start : σ} {graph : DependencyGraph} {limit : SlotLimit}
  {before : List Event} (known : ∀ id ∈ graph.order, ∃ i ∈ a.units, i.id = id)
  (history : w.History origin [] [] [] start)
include known history

/-- **Diligent workers answer at every wait of a run.** -/
theorem Diligent.responsive (diligent : w.Diligent a.jobs origin) :
    Responsive w a (initial graph (.ofLimit limit) before) start := by
  intro world inFlight waits
  obtain ⟨given, answers, history, own⟩ := (chronicled_initial history).waits known waits
  exact diligent given answers inFlight world history own waits.ne_nil

/-- **What faithful workers answer in a run is as it should be.** -/
theorem Faithful.result_eq {outcome : CheckId → CheckResult} (faithful : w.Faithful a.jobs origin outcome)
    {c : Completion} (answered : Answered w a (initial graph (.ofLimit limit) before) start c) :
    c.result = outcome c.id := by
  obtain ⟨world, inFlight, waits, mem⟩ := answered
  obtain ⟨given, answers, history, own⟩ := (chronicled_initial history).waits known waits
  exact faithful given answers inFlight world history own c mem

end Workers

end GateRunner
