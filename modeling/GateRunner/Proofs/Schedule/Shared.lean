import GateRunner.Proofs.Schedule.Tally

/-!
# Runs of checks that may share an id

What every step keeps holds in all states that a run comes to (`Reachable.keeps`). It is the same for all workers and all
checks, distinct or not, and also where a run breaks off. Where a run ends without a fault nothing is pending and nothing
in flight (`ended_loop`).

**The law** (`Tally.exists_result`, `Tally.answered`, `Tally.finished_after_start`): so at such an end every listed id has
finished, and what has started has finished after its start, with what a worker answered.
-/

namespace GateRunner

open scoped List

namespace ScheduleState

variable {σ : Type} {w : Workers σ} {a : Assignment} {first s t : ScheduleState} {start world : σ}

/-! ## Properties that every step keeps -/

section Keeps

variable {P : ScheduleState → Prop} (begin : P first)
  (skips : ∀ {s : ScheduleState} {part}, P s → part <+: s.blocked → P (s.skipBlocked part))
  (starts : ∀ {s : ScheduleState} {part}, P s → part <+: s.ready → P ((s.skipBlocked s.blocked).startReady part))
  (takes : ∀ {s : ScheduleState} {c}, P s → Answered w a first start c → ∀ failFast, P (s.takeIn failFast c))

theorem keeps_absorb (takes : ∀ {s : ScheduleState} {c}, P s → Answered w a first start c → ∀ failFast, P (s.takeIn failFast c))
    (holds : P s) {batch : List Completion} (answered : ∀ c ∈ batch, Answered w a first start c) (failFast : Bool) :
    P (s.absorb failFast batch) := by
  induction batch generalizing s with
  | nil => exact holds
  | cons c rest ih =>
    exact ih (takes holds (answered c List.mem_cons_self) failFast) fun other mem =>
      answered other (List.mem_cons_of_mem _ mem)

include begin starts takes

theorem Turns.keeps (turns : Turns w a first start s world) : P s := by
  induction turns with
  | here => exact begin
  | turn before going ih =>
    have sent := starts ih (List.prefix_refl _)
    rename_i s world
    by_cases idle : s.dispatch.running = []
    · rw [turn_of_idle idle]
      exact sent
    · rw [turn_of_busy idle]
      exact keeps_absorb takes sent (fun c mem => ⟨_, _, .inTurn before going idle, mem⟩) a.failFast

theorem Drains.keeps (drains : Drains w a first start s world) : P s := by
  induction drains with
  | begin turns _ => exact turns.keeps begin starts takes
  | wait before busy ih => exact keeps_absorb takes ih (fun c mem => ⟨_, _, .atEnd before busy, mem⟩) false

include skips

/-- **What holds at first and is kept by every step holds in all states that a run comes to.** -/
theorem Reachable.keeps (settles : ∀ {s : ScheduleState}, P s → P s.settle) (reachable : Reachable w a first start t) :
    P t := by
  cases reachable with
  | skipping turns _ begun => exact skips (turns.keeps begin starts takes) begun
  | starting turns _ begun => exact starts (turns.keeps begin starts takes) begun
  | takingIn turns going busy begun =>
    exact keeps_absorb takes (starts (turns.keeps begin starts takes) (List.prefix_refl _))
      (fun c mem => ⟨_, _, .inTurn turns going busy, begun.subset mem⟩) a.failFast
  | draining drains busy begun =>
    exact keeps_absorb takes (drains.keeps begin starts takes)
      (fun c mem => ⟨_, _, .atEnd drains busy, begun.subset mem⟩) false
  | drained drains _ => exact drains.keeps begin starts takes
  | settled drains _ _ => exact settles (drains.keeps begin starts takes)

end Keeps

/-! ## The end of a run -/

/-- After settling nothing is pending, and what was in flight still is. -/
theorem settle_left (s : ScheduleState) : s.settle.pending = [] ∧ s.settle.running = s.running := by
  have general : ∀ (ids : List CheckId) (t : ScheduleState),
      let after := ids.foldl (fun s id => s.record (.skipped id (s.reasonLeft id))) t
      after.pending = t.pending ∧ after.running = t.running := by
    intro ids
    induction ids with
    | nil => exact fun _ => ⟨rfl, rfl⟩
    | cons id rest ih =>
      intro t
      obtain ⟨pending, running⟩ := ih (t.record (.skipped id (t.reasonLeft id)))
      exact ⟨pending.trans (t.pending_record _), running.trans (t.running_record _)⟩
  exact general s.pending { s with pending := [] }

theorem ended_close (drains : Drains w a first start s world) : Ended (close w a s world) := by
  have idle := (drains_drain drains).2
  fun_cases close w a s world with
  | case1 drained done =>
    intro none
    rw [none] at done
    exact ⟨by simpa only [Option.isSome_none, Bool.false_or, List.isEmpty_iff] using done, idle none⟩
  | case2 drained going stopped settled =>
    have none : (drain w a s world).fault = none := fault_eq_none_of_not going
    obtain ⟨pending, running⟩ := (drain w a s world).state.settle_left
    exact fun _ => ⟨pending, running.trans (idle none)⟩
  | case3 => exact fun fault => by cases fault

/-- A run that ends without a fault leaves nothing pending and nothing in flight. -/
theorem ended_loop (turns : Turns w a first start s world) : Ended (loop w a s world) := by
  obtain ⟨last, now, turns', ⟨atEnd, same⟩ | ⟨e, same⟩⟩ := turns.loop_cases
  · rw [same]
    exact ended_close (.begin turns' atEnd)
  · rw [same]
    exact fun fault => by cases fault

namespace Tally

variable {graph : DependencyGraph} {limit : SlotLimit} {given : Completion → Prop} {before seen : List Event}
  (tally : Tally graph limit given before seen s)
include tally

/-- Where the checks are distinct none starts twice. -/
theorem nodup_starts (distinct : graph.order.Nodup) : (seen.filterMap Event.started?).Nodup :=
  List.nodup_iff_count_le_one.mpr fun id =>
    (Nat.le_trans (tally.starts id) (Nat.min_le_left _ _)).trans (List.nodup_iff_count_le_one.mp distinct id)

variable (none : s.pending = []) (idle : s.running = [])
include none idle

/-- At the end every listed check has a result. -/
theorem exists_result {id : CheckId} (listed : id ∈ graph.order) : ∃ r, s.result? id = some r := by
  rcases tally.placed id listed with pending | running | finished
  · exact absurd (none ▸ pending) List.not_mem_nil
  · exact absurd (idle ▸ running) List.not_mem_nil
  · exact Option.isSome_iff_exists.mp finished

/-- At the end what has started has finished with what a worker answered. -/
theorem answered {id : CheckId} (started : .started id ∈ seen) :
    ∃ c, given c ∧ c.id = id ∧ s.result? id = some (c.result.under id) := by
  obtain ⟨r, found⟩ := tally.exists_result none idle (tally.mem_order started)
  obtain ⟨hr, rfl⟩ := mem_of_result? found
  rcases tally.sources r hr with ⟨_, c, answer, rfl⟩ | ⟨unseen, _⟩
  · exact ⟨c, answer, rfl, found⟩
  · exact absurd started unseen

/-- At the end a check has finished after its start, and not before. -/
theorem finished_after_start {early late : List Event} {id : CheckId} (split : seen = early ++ .started id :: late) :
    (∀ r, .finished r ∈ early → r.check ≠ id) ∧ ∃ r, .finished r ∈ late ∧ r.check = id := by
  have begun : early ++ [.started id] <+: seen := ⟨late, by rw [split, List.append_assoc]; rfl⟩
  have fresh := (tally.founded early id begun).fresh
  have started : .started id ∈ seen := begun.subset (List.mem_append_right _ List.mem_cons_self)
  obtain ⟨r, found⟩ := tally.exists_result none idle (tally.mem_order started)
  obtain ⟨hr, own⟩ := mem_of_result? found
  have mem := tally.finished_mem_iff.mpr hr
  rw [split, List.mem_append, List.mem_cons] at mem
  rcases mem with mem | mem | mem
  · exact absurd own (fresh r mem)
  · cases mem
  · exact ⟨fresh, r, mem, own⟩

/-- At the end distinct checks have finished once each. -/
theorem finished_perm_order (distinct : graph.order.Nodup) : s.results.map (·.check) ~ graph.order := by
  refine (List.perm_ext_iff_of_nodup tally.once distinct).mpr fun id => ⟨fun mem => ?_, fun listed => ?_⟩
  · obtain ⟨r, hr, rfl⟩ := List.mem_map.mp mem
    exact tally.listed r hr
  · obtain ⟨r, found⟩ := tally.exists_result none idle listed
    obtain ⟨hr, rfl⟩ := mem_of_result? found
    exact List.mem_map_of_mem hr

end Tally

end ScheduleState

end GateRunner
