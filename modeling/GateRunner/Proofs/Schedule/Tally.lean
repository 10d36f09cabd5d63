import GateRunner.Proofs.Schedule.Waits

/-!
# What is seen of each id, step by step

The scheduler knows checks by their ids. Nothing in it asks that the checks of a run be distinct: where two of them share
an id, the id is listed twice, and all that is looked up under it is one entry. What is pending of an id starts in one
dispatch, because a start takes the id out of the pending list at every place; but the ready checks are listed before any
of them is started, so as many of them start as there are places and slots. A result is put on record only for an id
that has none.

`Tally` says of a state what has been seen up to there, id by id. It rests on no more than the steps themselves do, so
the courses of a schedule, in which a check starts once, are of no use here.

**The law** (`Tally.skip_some`, `Tally.start_some`, `Tally.takeIn`, `Tally.settle`): every step keeps the tally.
-/

namespace GateRunner

theorem mem_filterMap_started? {seen : List Event} {id : CheckId} :
    id ∈ seen.filterMap Event.started? ↔ .started id ∈ seen := by
  rw [List.mem_filterMap]
  constructor
  · rintro ⟨event, mem, e⟩
    cases event with
    | started other => exact Option.some.inj e ▸ mem
    | _ => cases e
  · exact fun mem => ⟨_, mem, rfl⟩

theorem mem_filterMap_finished? {seen : List Event} {r : CheckResult} :
    r ∈ seen.filterMap Event.finished? ↔ .finished r ∈ seen := by
  rw [List.mem_filterMap]
  constructor
  · rintro ⟨event, mem, e⟩
    cases event with
    | finished other => exact Option.some.inj e ▸ mem
    | _ => cases e
  · exact fun mem => ⟨_, mem, rfl⟩

/-- A prefix of two lists joined ends within the first, or goes on into the second. -/
theorem prefix_append_cases {α : Type} {early first second : List α} {x : α} (begun : early ++ [x] <+: first ++ second) :
    early ++ [x] <+: first ∨ first <+: early ∧ x ∈ second := by
  rcases List.prefix_or_prefix_of_prefix begun (List.prefix_append first second) with within | beyond
  · exact .inl within
  · rcases List.prefix_concat_iff.mp beyond with rfl | shorter
    · exact .inl (List.prefix_refl _)
    · obtain ⟨more, rfl⟩ := shorter
      rw [List.append_assoc, List.prefix_append_right_inj] at begun
      exact .inr ⟨List.prefix_append _ _, begun.subset (List.mem_append_right _ List.mem_cons_self)⟩

/-- Taking one id out of a list and then some others is taking them all out. -/
theorem filter_ne_filter_not_mem (ids : List CheckId) (id : CheckId) (others : List CheckId) :
    (ids.filter (· ≠ id)).filter (· ∉ others) = ids.filter (· ∉ id :: others) := by
  rw [List.filter_filter]
  refine List.filter_congr fun other _ => Bool.eq_iff_iff.mpr ?_
  simp only [Bool.and_eq_true, decide_eq_true_eq, List.mem_cons, not_or]
  exact and_comm

theorem started_mem_snoc_finished {seen : List Event} {id : CheckId} {r : CheckResult} :
    .started id ∈ seen ++ [.finished r] ↔ .started id ∈ seen := by
  simp only [List.mem_append, List.mem_singleton, reduceCtorEq, or_false]

namespace ScheduleState

variable {s : ScheduleState}

/-! ## What a step leaves as it is -/

theorem record_of_held {r : CheckResult} (held : (s.result? r.check).isSome = true) : s.record r = s := if_pos held

theorem isSome_result?_record_self (s : ScheduleState) (r : CheckResult) :
    ((s.record r).result? r.check).isSome = true := by
  cases found : s.result? r.check with
  | none =>
    rw [record_of_fresh found]
    exact List.find?_isSome.mpr ⟨r, List.mem_append_right _ List.mem_cons_self, decide_eq_true rfl⟩
  | some held =>
    have isSome : (s.result? r.check).isSome = true := Option.isSome_of_eq_some found
    rwa [record_of_held isSome]

theorem pending_record (s : ScheduleState) (r : CheckResult) : (s.record r).pending = s.pending := by
  rw [record]
  split <;> rfl

theorem running_record (s : ScheduleState) (r : CheckResult) : (s.record r).running = s.running := by
  rw [record]
  split <;> rfl

theorem record_keeps_results (s : ScheduleState) (r : CheckResult) : s.results <+: (s.record r).results := by
  rw [record]
  split
  · exact List.prefix_refl _
  · exact List.prefix_append _ _

theorem record_withPending (s : ScheduleState) (pending : List CheckId) (r : CheckResult) :
    { s with pending }.record r = { s.record r with pending } := by
  cases found : s.result? r.check with
  | none => rw [record_of_fresh found]; exact record_of_fresh found
  | some held =>
    have isSome : (s.result? r.check).isSome = true := Option.isSome_of_eq_some found
    rw [record_of_held isSome]
    exact record_of_held isSome

theorem isSome_result?_record {id : CheckId} (finished : (s.result? id).isSome = true) (r : CheckResult) :
    ((s.record r).result? id).isSome = true := by
  obtain ⟨held, mem, own⟩ := List.find?_isSome.mp finished
  exact List.find?_isSome.mpr ⟨held, (record_keeps_results s r).subset mem, own⟩

/-- What is taken in goes on record; apart from that, the check is no longer in flight. -/
theorem takeIn_of_inFlight {c : Completion} (inFlight : c.id ∈ s.running) (failFast : Bool) :
    s.takeIn failFast c = { s.record (c.result.under c.id) with
      slots := s.slots.release, running := s.running.erase c.id,
      stopped := s.stopped || (failFast && c.result.isFailed) } := by
  rw [takeIn, if_pos inFlight]
  cases found : s.result? c.id with
  | none => rw [record_of_fresh (r := c.result.under c.id) found]; exact record_of_fresh found
  | some r =>
    have held : (s.result? (c.result.under c.id).check).isSome = true := Option.isSome_of_eq_some found
    rw [record_of_held held]
    exact record_of_held held

theorem pending_skipBlocked (s : ScheduleState) (blocked : List (CheckId × CheckId)) :
    (s.skipBlocked blocked).pending = s.pending.filter (· ∉ blocked.map (·.1)) := by
  induction blocked generalizing s with
  | nil => simp [skipBlocked]
  | cons b rest ih =>
    have first : (s.skip b.1 (.dependencyFailed b.2)).pending = s.pending.filter (· ≠ b.1) := pending_record _ _
    rw [skipBlocked_cons, ih, first, filter_ne_filter_not_mem]
    rfl

theorem skipBlocked_keeps_results (s : ScheduleState) (blocked : List (CheckId × CheckId)) :
    s.results <+: (s.skipBlocked blocked).results := by
  induction blocked generalizing s with
  | nil => exact List.prefix_refl _
  | cons b rest ih => exact (record_keeps_results (s.withdraw b.1) _).trans (ih _)

/-- A check that is ready is not blocked, so the skips of a dispatch leave it pending, as often as it was. -/
theorem count_pending_skipBlocked {id : CheckId} (ready : id ∈ s.ready) :
    (s.skipBlocked s.blocked).pending.count id = s.pending.count id := by
  have unbarred : decide (id ∉ s.blocked.map (·.1)) = true := decide_eq_true fun mem => by
    rw [map_fst_blocked, List.mem_filter, isBarred, (mem_ready.mp ready).2] at mem
    cases mem.2
  rw [pending_skipBlocked]
  exact List.count_filter unbarred

/-- What a number of starts come to, whatever is known of the checks: the first of them start. -/
theorem exists_startReady (s : ScheduleState) (ids : List CheckId) :
    ∃ started, started <+: ids ∧ started.length ≤ s.slots.limit.count - s.slots.active ∧
      ∃ slots, slots.limit = s.slots.limit ∧
        s.startReady ids = { s with
          slots, pending := s.pending.filter (· ∉ started), running := s.running ++ started,
          trace := s.trace ++ started.map .started } := by
  induction ids generalizing s with
  | nil => exact ⟨[], List.nil_prefix, Nat.zero_le _, s.slots, rfl, by simp [startReady]⟩
  | cons id rest ih =>
    rw [startReady]
    by_cases free : s.slots.hasFree = true
    · obtain ⟨started, leading, length, slots, limit, shape⟩ := ih (s.start id)
      have taken : s.slots.active < s.slots.limit.count := of_decide_eq_true free
      have length' : started.length ≤ s.slots.limit.count - (s.slots.active + 1) := length
      have pending : (s.start id).pending.filter (· ∉ started) = s.pending.filter (· ∉ id :: started) :=
        filter_ne_filter_not_mem _ _ _
      have running : (s.start id).running ++ started = s.running ++ id :: started := List.append_assoc _ [id] _
      have trace : (s.start id).trace ++ started.map .started = s.trace ++ (id :: started).map .started :=
        List.append_assoc _ [Event.started id] _
      rw [if_pos free, shape, pending, running, trace]
      refine ⟨id :: started, List.cons_prefix_cons.mpr ⟨rfl, leading⟩, ?_, slots, limit, rfl⟩
      rw [List.length_cons]
      omega
    · rw [if_neg free]
      exact ⟨[], List.nil_prefix, Nat.zero_le _, s.slots, rfl, by simp⟩

/-! ## The tally -/

/-- Where a result comes from: from a worker if its check has started, and otherwise from the scheduler, as a skip. -/
def Sourced (given : Completion → Prop) (seen : List Event) (r : CheckResult) : Prop :=
  (.started r.check ∈ seen ∧ ∃ c, given c ∧ r = c.result.under c.id) ∨ (.started r.check ∉ seen ∧ r.verdict = .skipped)

/-- A check may start after what has been seen: all that it depends on has passed, and it has not finished itself. -/
structure Founded (graph : DependencyGraph) (early : List Event) (id : CheckId) : Prop where
  passed : ∀ d, graph.DependsOn id d → ∃ r, .finished r ∈ early ∧ r.check = d ∧ r.isPassed = true
  fresh : ∀ r, .finished r ∈ early → r.check ≠ id

/-- What has been seen of a run, id by id. -/
structure Tally (graph : DependencyGraph) (limit : SlotLimit) (given : Completion → Prop) (before seen : List Event)
    (s : ScheduleState) : Prop where
  same : s.graph = graph
  slots : s.slots.limit = limit
  trace : s.trace = before ++ seen
  /-- Nothing but starts and results is seen. -/
  kinds : ∀ event ∈ seen, (∃ id, event = .started id) ∨ ∃ r, event = .finished r
  results : seen.filterMap Event.finished? = s.results
  recorded : s.finished = s.results.map (·.check)
  pending : s.pending.Sublist graph.order
  /-- What is listed is pending, in flight or finished. -/
  placed : ∀ id ∈ graph.order, id ∈ s.pending ∨ id ∈ s.running ∨ (s.result? id).isSome = true
  /-- Of what is pending nothing has been seen. -/
  untouched : ∀ id ∈ s.pending, .started id ∉ seen ∧ s.result? id = none
  running : ∀ id ∈ s.running, .started id ∈ seen
  /-- An id starts no more often than it is listed and than there are slots. -/
  starts : ∀ id, (seen.filterMap Event.started?).count id ≤ min (graph.order.count id) limit.count
  founded : ∀ early id, early ++ [.started id] <+: seen → Founded graph early id
  /-- An id finishes at most once. -/
  once : (s.results.map (·.check)).Nodup
  listed : ∀ r ∈ s.results, r.check ∈ graph.order
  sources : ∀ r ∈ s.results, Sourced given seen r

variable {graph : DependencyGraph} {limit : SlotLimit} {given : Completion → Prop} {before seen : List Event}

theorem Sourced.of_same {seen' : List Event} {r : CheckResult} (sourced : Sourced given seen r)
    (same : ∀ id, .started id ∈ seen' ↔ .started id ∈ seen) : Sourced given seen' r :=
  sourced.imp (.imp_left (same _).mpr) (.imp_left (mt (same _).mp))

theorem tally_initial (graph : DependencyGraph) (limit : SlotLimit) (given : Completion → Prop) (before : List Event) :
    Tally graph limit given before [] (initial graph (.ofLimit limit) before) where
  same := rfl
  slots := rfl
  trace := (List.append_nil _).symm
  kinds _ mem := absurd mem List.not_mem_nil
  results := rfl
  recorded := rfl
  pending := .refl _
  placed _ hid := .inl hid
  untouched _ _ := ⟨List.not_mem_nil, rfl⟩
  running _ hid := absurd hid List.not_mem_nil
  starts _ := Nat.zero_le _
  founded _ _ begun := absurd (begun.subset (List.mem_append_right _ List.mem_cons_self)) List.not_mem_nil
  once := List.nodup_nil
  listed _ hr := absurd hr List.not_mem_nil
  sources _ hr := absurd hr List.not_mem_nil

namespace Tally

variable (tally : Tally graph limit given before seen s)
include tally

theorem mem_order {id : CheckId} (started : .started id ∈ seen) : id ∈ graph.order := by
  have positive := List.count_pos_iff.mpr (mem_filterMap_started?.mpr started)
  exact List.count_pos_iff.mp (Nat.lt_of_lt_of_le positive (Nat.le_trans (tally.starts id) (Nat.min_le_left _ _)))

theorem finished_mem_iff {r : CheckResult} : .finished r ∈ seen ↔ r ∈ s.results := by
  rw [← mem_filterMap_finished?, tally.results]

theorem count_eq_zero {id : CheckId} (pending : id ∈ s.pending) : (seen.filterMap Event.started?).count id = 0 :=
  List.count_eq_zero.mpr fun mem => (tally.untouched id pending).1 (mem_filterMap_started?.mp mem)

/-! ## Results -/

/-- A check that has a result may leave the pending ones. -/
theorem leave {rest : List CheckId} (sub : rest.Sublist s.pending)
    (left : ∀ id ∈ s.pending, id ∈ rest ∨ (s.result? id).isSome = true) :
    Tally graph limit given before seen { s with pending := rest } where
  __ := tally
  pending := sub.trans tally.pending
  placed id hid := by
    rcases tally.placed id hid with pending | placed
    · exact (left id pending).imp_right .inr
    · exact .inr placed
  untouched id hid := tally.untouched id (sub.subset hid)

/-- A check may leave the pending ones as its first result goes on record, or have left them before. -/
theorem recordFresh {rest : List CheckId} {r : CheckResult} (fresh : s.result? r.check = none)
    (sub : rest.Sublist s.pending) (left : ∀ id ∈ s.pending, id ∈ rest ∨ id = r.check) (settled : r.check ∉ rest)
    (listed : r.check ∈ graph.order) (sourced : Sourced given seen r) :
    Tally graph limit given before (seen ++ [.finished r]) ({ s with pending := rest }.record r) := by
  have others : ∀ {id}, r.check ≠ id → (s.results ++ [r]).find? (fun r => r.check = id) = s.result? id := fun other =>
    result?_eq_of_recorded (s := s) (t := { s with results := s.results ++ [r] }) rfl other
  have mine := isSome_result?_record_self { s with pending := rest } r
  rw [record_of_fresh (s := { s with pending := rest }) fresh] at mine ⊢
  constructor
  case same => exact tally.same
  case slots => exact tally.slots
  case trace => rw [← List.append_assoc, ← tally.trace]
  case kinds =>
    intro event mem
    rcases List.mem_append.mp mem with mem | mem
    · exact tally.kinds event mem
    · exact .inr ⟨r, List.mem_singleton.mp mem⟩
  case results => rw [List.filterMap_append, tally.results]; rfl
  case recorded => rw [tally.recorded, List.map_append]; rfl
  case pending => exact sub.trans tally.pending
  case placed =>
    intro id hid
    by_cases own : r.check = id
    · exact .inr (.inr (own ▸ mine))
    · rcases tally.placed id hid with pending | running | finished
      · exact (left id pending).imp_right fun e => absurd e.symm own
      · exact .inr (.inl running)
      · exact .inr (.inr ((congrArg Option.isSome (others own)).trans finished))
  case untouched =>
    intro id hid
    obtain ⟨unseen, none⟩ := tally.untouched id (sub.subset hid)
    exact ⟨mt started_mem_snoc_finished.mp unseen, (others fun e => settled (e ▸ hid)).trans none⟩
  case running => exact fun id hid => started_mem_snoc_finished.mpr (tally.running id hid)
  case starts =>
    have quiet : (seen ++ [Event.finished r]).filterMap Event.started? = seen.filterMap Event.started? := by
      rw [List.filterMap_append]
      exact List.append_nil _
    rw [quiet]
    exact tally.starts
  case founded =>
    intro early id begun
    rcases prefix_append_cases begun with within | ⟨_, mem⟩
    · exact tally.founded early id within
    · cases List.mem_singleton.mp mem
  case once =>
    rw [List.map_append, List.map_singleton]
    refine List.nodup_append.mpr ⟨tally.once, List.nodup_singleton _, fun id hid other hother e => ?_⟩
    exact result?_eq_none_iff.mp fresh (List.mem_singleton.mp hother ▸ e ▸ hid)
  case listed =>
    intro r' hr
    rcases List.mem_append.mp hr with hr | hr
    · exact tally.listed r' hr
    · exact List.mem_singleton.mp hr ▸ listed
  case sources =>
    intro r' hr
    rcases List.mem_append.mp hr with hr | hr
    · exact (tally.sources r' hr).of_same fun _ => started_mem_snoc_finished
    · exact (List.mem_singleton.mp hr ▸ sourced).of_same fun _ => started_mem_snoc_finished

/-- A check may leave the pending ones together with its result going on record, whether it is the first or not. -/
theorem record {rest : List CheckId} {r : CheckResult} (sub : rest.Sublist s.pending)
    (left : ∀ id ∈ s.pending, id ∈ rest ∨ id = r.check) (settled : r.check ∉ rest) (listed : r.check ∈ graph.order)
    (sourced : Sourced given seen r) :
    ∃ seen', Tally graph limit given before seen' ({ s with pending := rest }.record r) ∧
      ∀ id, .started id ∈ seen' ↔ .started id ∈ seen := by
  cases found : s.result? r.check with
  | some held =>
    have isSome : (s.result? r.check).isSome = true := Option.isSome_of_eq_some found
    rw [record_of_held (s := { s with pending := rest }) isSome]
    refine ⟨seen, tally.leave sub fun id hid => ?_, fun _ => Iff.rfl⟩
    rcases left id hid with kept | rfl
    · exact .inl kept
    · exact .inr isSome
  | none =>
    exact ⟨_, tally.recordFresh found sub left settled listed sourced, fun _ => started_mem_snoc_finished⟩

/-- A listed check that has not started may be skipped. -/
theorem skip {id : CheckId} (reason : Omission) (listed : id ∈ graph.order) (unseen : .started id ∉ seen)
    (verdict : reason.verdict = .skipped) :
    ∃ seen', Tally graph limit given before seen' (s.skip id reason) ∧
      ∀ other, .started other ∈ seen' ↔ .started other ∈ seen :=
  tally.record (r := .skipped id reason) List.filter_sublist
    (fun other hid => (Decidable.em (other = id)).symm.imp_left fun ne => List.mem_filter.mpr ⟨hid, decide_eq_true ne⟩)
    (fun mem => of_decide_eq_true (List.mem_filter.mp mem).2 rfl) listed (.inr ⟨unseen, verdict⟩)

theorem skipBlocked {blocked : List (CheckId × CheckId)} (listed : ∀ b ∈ blocked, b.1 ∈ graph.order)
    (unseen : ∀ b ∈ blocked, .started b.1 ∉ seen) :
    ∃ seen', Tally graph limit given before seen' (s.skipBlocked blocked) ∧
      ∀ other, .started other ∈ seen' ↔ .started other ∈ seen := by
  induction blocked generalizing s seen with
  | nil => exact ⟨seen, tally, fun _ => Iff.rfl⟩
  | cons b rest ih =>
    obtain ⟨seen', tally', same⟩ := tally.skip (.dependencyFailed b.2) (listed b List.mem_cons_self)
      (unseen b List.mem_cons_self) rfl
    obtain ⟨seen'', tally'', same'⟩ := ih tally' (fun other mem => listed other (List.mem_cons_of_mem _ mem))
      fun other mem started => unseen other (List.mem_cons_of_mem _ mem) ((same _).mp started)
    exact ⟨seen'', tally'', fun other => (same' other).trans (same other)⟩

/-- The first of the blocked checks may be skipped. -/
theorem skip_some {part : List (CheckId × CheckId)} (begun : part <+: s.blocked) :
    ∃ seen', Tally graph limit given before seen' (s.skipBlocked part) := by
  have pending : ∀ b ∈ part, b.1 ∈ s.pending := fun b mem => (mem_blocked.mp (begun.subset mem)).1
  obtain ⟨seen', tally', _⟩ := tally.skipBlocked (fun b mem => tally.pending.subset (pending b mem)) fun b mem =>
    (tally.untouched _ (pending b mem)).1
  exact ⟨seen', tally'⟩

/-- What a worker has answered may be taken in. -/
theorem takeIn {c : Completion} (answer : given c) (failFast : Bool) :
    ∃ seen', Tally graph limit given before seen' (s.takeIn failFast c) := by
  by_cases inFlight : c.id ∈ s.running
  · have started := tally.running c.id inFlight
    have recorded := isSome_result?_record_self s (c.result.under c.id)
    obtain ⟨seen', tally', same⟩ := tally.record (r := c.result.under c.id) (.refl _) (fun _ hid => .inl hid)
      (fun pending => (tally.untouched _ pending).1 started) (tally.mem_order started) (.inl ⟨started, c, answer, rfl⟩)
    rw [takeIn_of_inFlight inFlight]
    refine ⟨seen', { tally' with slots := tally.slots, placed := fun id hid => ?_, running := fun id hid => ?_ }⟩
    · by_cases mine : id = c.id
      · exact .inr (.inr (mine ▸ recorded))
      · refine (tally'.placed id hid).imp_right fun placed => placed.imp_left fun running => ?_
        exact (List.mem_erase_of_ne mine).mpr (s.running_record _ ▸ running)
    · exact (same id).mpr (tally.running id (List.mem_of_mem_erase hid))
  · have same : s.takeIn failFast c = s := if_neg inFlight
    rw [same]
    exact ⟨seen, tally⟩

omit tally in
/-- Settling gives results to what is still open of the ids that it goes through. The state has no more pending ids by
then, so the tally is carried with those that are open. -/
theorem settleOpen {ids still : List CheckId} {t : ScheduleState}
    (tally : Tally graph limit given before seen { t with pending := still }) (none : t.pending = [])
    (within : still ⊆ ids) (covered : ∀ id ∈ ids, id ∈ still ∨ (t.result? id).isSome = true) :
    ∃ seen', Tally graph limit given before seen'
      (ids.foldl (fun s id => s.record (.skipped id (s.reasonLeft id))) t) := by
  induction ids generalizing still t seen with
  | nil =>
    have same : { t with pending := still } = t := by rw [List.subset_nil.mp within, ← none]
    exact ⟨seen, same ▸ tally⟩
  | cons id more ih =>
    by_cases isOpen : id ∈ still
    · obtain ⟨seen', tally', _⟩ := tally.skip (t.reasonLeft id) (tally.pending.subset isOpen)
        (tally.untouched id isOpen).1 (by rw [reasonLeft]; split <;> rfl)
      have shape : { t with pending := still }.skip id (t.reasonLeft id) =
          { t.record (.skipped id (t.reasonLeft id)) with pending := still.filter (· ≠ id) } :=
        t.record_withPending _ _
      rw [shape] at tally'
      refine ih tally' ((t.pending_record _).trans none) (fun other hid => ?_) fun other hid => ?_
      · simp only [List.mem_filter, decide_eq_true_eq] at hid
        exact (List.mem_cons.mp (within hid.1)).resolve_left hid.2
      · by_cases mine : other = id
        · exact .inr (mine ▸ isSome_result?_record_self t (.skipped id (t.reasonLeft id)))
        · rcases covered other (List.mem_cons_of_mem _ hid) with inStill | finished
          · exact .inl (List.mem_filter.mpr ⟨inStill, decide_eq_true mine⟩)
          · exact .inr (isSome_result?_record finished _)
    · have held := (covered id List.mem_cons_self).resolve_left isOpen
      rw [List.foldl_cons, record_of_held held]
      refine ih tally none (fun other hid => ?_) fun other hid => covered other (List.mem_cons_of_mem _ hid)
      exact (List.mem_cons.mp (within hid)).resolve_left fun e => isOpen (e ▸ hid)

/-- What is pending may be settled. -/
theorem settle : ∃ seen', Tally graph limit given before seen' s.settle :=
  settleOpen (t := { s with pending := [] }) tally rfl (List.Subset.refl _) fun _ hid => .inl hid

/-! ## Starts -/

/-- Some of the pending checks may start together, each as often as it is pending, as far as there are slots and if all
that they depend on has passed. -/
theorem launch {started : List CheckId} {slots : Slots} (pending : ∀ id, started.count id ≤ s.pending.count id)
    (free : started.length ≤ limit.count) (passed : ∀ id ∈ started, ∀ d, graph.DependsOn id d → s.HasPassed d)
    (kept : slots.limit = s.slots.limit) :
    Tally graph limit given before (seen ++ started.map .started) { s with
      slots, pending := s.pending.filter (· ∉ started), running := s.running ++ started,
      trace := s.trace ++ started.map .started } := by
  have among : ∀ id ∈ started, id ∈ s.pending := fun id mem =>
    List.count_pos_iff.mp (Nat.lt_of_lt_of_le (List.count_pos_iff.mpr mem) (pending id))
  have seenIff : ∀ id, .started id ∈ seen ++ started.map .started ↔ .started id ∈ seen ∨ id ∈ started := fun id => by
    simp only [List.mem_append, List.mem_map, Event.started.injEq, exists_eq_right]
  constructor
  case same => exact tally.same
  case slots => exact kept.trans tally.slots
  case trace => rw [tally.trace, List.append_assoc]
  case kinds =>
    intro event mem
    rcases List.mem_append.mp mem with mem | mem
    · exact tally.kinds event mem
    · obtain ⟨id, _, rfl⟩ := List.mem_map.mp mem
      exact .inl ⟨id, rfl⟩
  case results =>
    have none : (started.map Event.started).filterMap Event.finished? = [] :=
      List.filterMap_eq_nil_iff.mpr fun event mem => by
        obtain ⟨_, _, rfl⟩ := List.mem_map.mp mem
        rfl
    rw [List.filterMap_append, none, List.append_nil, tally.results]
  case recorded => exact tally.recorded
  case pending => exact List.filter_sublist.trans tally.pending
  case placed =>
    intro id hid
    rcases tally.placed id hid with pending | running | finished
    · by_cases mem : id ∈ started
      · exact .inr (.inl (List.mem_append_right _ mem))
      · exact .inl (List.mem_filter.mpr ⟨pending, decide_eq_true mem⟩)
    · exact .inr (.inl (List.mem_append_left _ running))
    · exact .inr (.inr finished)
  case untouched =>
    intro id hid
    simp only [List.mem_filter, decide_eq_true_eq] at hid
    obtain ⟨unseen, none⟩ := tally.untouched id hid.1
    exact ⟨fun mem => ((seenIff id).mp mem).elim unseen hid.2, none⟩
  case running => exact fun id hid => (seenIff id).mpr ((List.mem_append.mp hid).imp_left (tally.running id))
  case starts =>
    intro id
    have new : (started.map Event.started).filterMap Event.started? = started := by
      rw [List.filterMap_map]
      exact List.filterMap_some
    rw [List.filterMap_append, new, List.count_append]
    by_cases mem : id ∈ started
    · -- all starts of an id come at once, so there have been none before
      rw [tally.count_eq_zero (among id mem), Nat.zero_add]
      exact Nat.le_min.mpr ⟨(pending id).trans (tally.pending.count_le id), List.count_le_length.trans free⟩
    · rw [List.count_eq_zero.mpr mem, Nat.add_zero]
      exact tally.starts id
  case founded =>
    intro early id begun
    rcases prefix_append_cases begun with within | ⟨after, mem⟩
    · exact tally.founded early id within
    · have mem : id ∈ started := by
        obtain ⟨_, mem, e⟩ := List.mem_map.mp mem
        exact Event.started.inj e ▸ mem
      refine ⟨fun d dep => ?_, fun r finished own => ?_⟩
      · obtain ⟨r, hr, check, pass⟩ := passed id mem d dep
        exact ⟨r, after.subset (tally.finished_mem_iff.mpr hr), check, pass⟩
      · have hr : r ∈ s.results := by
          have later := begun.subset (List.mem_append_left _ finished)
          simp only [List.mem_append, List.mem_map, reduceCtorEq, and_false, exists_false, or_false] at later
          exact tally.finished_mem_iff.mp later
        exact result?_eq_none_iff.mp (tally.untouched id (among id mem)).2 (own ▸ List.mem_map_of_mem hr)
  case once => exact tally.once
  case listed => exact tally.listed
  case sources =>
    intro r hr
    have settled : r.check ∉ started := fun mem =>
      result?_eq_none_iff.mp (tally.untouched _ (among _ mem)).2 (List.mem_map_of_mem hr)
    exact (tally.sources r hr).imp (.imp_left fun started => (seenIff _).mpr (.inl started))
      (.imp_left fun unseen started => ((seenIff _).mp started).elim unseen settled)

/-- The first of the ready checks may start, after the blocked ones have been skipped. -/
theorem start_some {part : List CheckId} (begun : part <+: s.ready) :
    ∃ seen', Tally graph limit given before seen' ((s.skipBlocked s.blocked).startReady part) := by
  obtain ⟨seen', tally'⟩ := tally.skip_some (List.prefix_refl s.blocked)
  obtain ⟨started, leading, length, slots, kept, shape⟩ := (s.skipBlocked s.blocked).exists_startReady part
  have ready : ∀ id ∈ started, id ∈ s.ready := fun id mem => begun.subset (leading.subset mem)
  rw [shape]
  refine ⟨_, tally'.launch (fun id => ?_) ?_ (fun id mem d dep => ?_) kept⟩
  · by_cases mem : id ∈ started
    · rw [count_pending_skipBlocked (ready id mem)]
      exact ((leading.trans begun).sublist.trans List.filter_sublist).count_le id
    · rw [List.count_eq_zero.mpr mem]
      exact Nat.zero_le _
  · rw [tally'.slots] at length
    omega
  · obtain ⟨r, hr, passed⟩ := hasPassed_of_ready tally.recorded (mem_ready.mp (ready id mem)).2 (tally.same ▸ dep)
    exact ⟨r, (s.skipBlocked_keeps_results _).subset hr, passed⟩

end Tally

end ScheduleState

end GateRunner
