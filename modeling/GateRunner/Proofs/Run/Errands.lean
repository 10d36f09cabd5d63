import GateRunner.Proofs.Check.Calls
import GateRunner.Proofs.Schedule.History
import GateRunner.Run.Clock
import Mathlib.Data.Multiset.MapFold
import Mathlib.Algebra.BigOperators.Group.Multiset.Basic

/-!
# What each worker does for its check

Many checks are under way at once on the virtual clock, and their calls change one project. The `journal` of a clock
lists all calls, each with the project that it met, which is what the call before it had left. It is a shuffle of what the
workers do, one for each check that was handed over, also where checks share an id. A worker has its check measured, has
it mend the project if that is wanted and offered, then has it evaluate the project, and answers (`Stands`); nothing that
a call ends with keeps it from the next step. An `Errand` is a check with where its worker stands and the calls that it
has made. In one step of the clock one worker goes on, and the others stand where they stood (`Roster.goOn`).

**The law** (`Clock.employs_of_history`): at any time the queue, the calls under way and the answers are just where the
errands stand, the journal of their calls leads from the first project to the one that the clock has, and what the clock
has noted is what it lists.
-/

namespace GateRunner

/-! ## Shuffles -/

/-- A list is made of parts, each of which keeps its order. -/
inductive Shuffle {α : Type} : Multiset (List α) → List α → Prop
  | nothing : Shuffle 0 []
  | idle {parts : Multiset (List α)} {whole : List α} (before : Shuffle parts whole) : Shuffle ([] ::ₘ parts) whole
  /-- One part goes on, and the whole with it. -/
  | next {part : List α} {parts : Multiset (List α)} {whole : List α} (before : Shuffle (part ::ₘ parts) whole) (a : α) :
      Shuffle ((part ++ [a]) ::ₘ parts) (whole ++ [a])

namespace Shuffle

variable {α : Type} {part : List α} {parts : Multiset (List α)} {whole : List α}

theorem append (before : Shuffle (part ::ₘ parts) whole) (more : List α) :
    Shuffle ((part ++ more) ::ₘ parts) (whole ++ more) := by
  induction more using List.reverseRecOn with
  | nil => simpa only [List.append_nil] using before
  | append_singleton more a ih => simpa only [List.append_assoc] using ih.next a

/-- The elements of one kind are a shuffle of those that the parts have. -/
theorem filter (shuffle : Shuffle parts whole) (p : α → Bool) : Shuffle (parts.map (List.filter p)) (whole.filter p) := by
  induction shuffle with
  | nothing => exact .nothing
  | idle _ ih => simpa only [Multiset.map_cons, List.filter_nil] using ih.idle
  | next _ a ih =>
    rw [Multiset.map_cons] at ih ⊢
    rw [List.filter_append, List.filter_append]
    exact ih.append _

theorem length_eq (shuffle : Shuffle parts whole) : whole.length = (parts.map List.length).sum := by
  induction shuffle with
  | nothing => rfl
  | idle _ ih => simpa using ih
  | next _ a ih =>
    rw [Multiset.map_cons, Multiset.sum_cons] at ih ⊢
    rw [List.length_append, List.length_append, ih]
    omega

theorem sublist (shuffle : Shuffle parts whole) : ∀ part ∈ parts, part.Sublist whole := by
  induction shuffle with
  | nothing => exact fun _ mem => absurd mem (Multiset.notMem_zero _)
  | idle _ ih =>
    intro part mem
    rcases Multiset.mem_cons.mp mem with rfl | mem
    · exact List.nil_sublist _
    · exact ih part mem
  | next _ a ih =>
    intro part mem
    rcases Multiset.mem_cons.mp mem with rfl | mem
    · exact (ih _ (Multiset.mem_cons_self _ _)).append_right [a]
    · exact (ih part (Multiset.mem_cons_of_mem mem)).trans (List.sublist_append_left _ _)

/-- Each element is one of a part. -/
theorem exists_part (shuffle : Shuffle parts whole) {a : α} (mem : a ∈ whole) : ∃ part ∈ parts, a ∈ part := by
  induction shuffle with
  | nothing => exact absurd mem List.not_mem_nil
  | idle _ ih =>
    obtain ⟨part, among, own⟩ := ih mem
    exact ⟨part, Multiset.mem_cons_of_mem among, own⟩
  | @next part parts whole _ b ih =>
    rcases List.mem_append.mp mem with mem | mem
    · obtain ⟨other, among, own⟩ := ih mem
      rcases Multiset.mem_cons.mp among with rfl | among
      · exact ⟨_, Multiset.mem_cons_self _ _, List.mem_append_left _ own⟩
      · exact ⟨other, Multiset.mem_cons_of_mem among, own⟩
    · exact ⟨_, Multiset.mem_cons_self _ _, List.mem_append_right _ mem⟩

/-- A part is found again by what only its elements are. -/
theorem filter_eq (shuffle : Shuffle (part ::ₘ parts) whole) {p : α → Bool} (own : ∀ a ∈ part, p a = true)
    (others : ∀ other ∈ parts, ∀ a ∈ other, p a = false) : whole.filter p = part := by
  have kept : part.filter p = part := List.filter_eq_self.mpr own
  have sub : part.Sublist (whole.filter p) := by
    have sub := shuffle.sublist part (Multiset.mem_cons_self _ _)
    exact kept ▸ sub.filter p
  have gone : ((parts.map (List.filter p)).map List.length).sum = 0 := by
    refine Multiset.sum_eq_zero fun n mem => ?_
    obtain ⟨_, filtered, rfl⟩ := Multiset.mem_map.mp mem
    obtain ⟨other, part, rfl⟩ := Multiset.mem_map.mp filtered
    rw [List.length_eq_zero_iff, List.filter_eq_nil_iff]
    exact fun a ha => by simp [others other part a ha]
  have length := (shuffle.filter p).length_eq
  rw [Multiset.map_cons, Multiset.map_cons, Multiset.sum_cons, kept, gone, Nat.add_zero] at length
  exact (sub.eq_of_length length.symm).symm

end Shuffle

/-! ## Errands -/

/-- The check whose call is noted. -/
def Note.check? : Note → Option CheckId
  | .seen _ => none
  | .fixing id => some id
  | .executing id => some id

/-- What is noted of a call. -/
def CheckCall.note? (call : CheckCall) : Option Note :=
  match call.request with
  | .measure => none
  | .fix => some (.fixing call.unit.id)
  | .evaluate => some (.executing call.unit.id)

/-- Where a check is that was handed over. -/
inductive Station
  /-- It waits to be begun. -/
  | queued (job : BoundCheck × Bool)
  /-- Its evaluation comes next, with what is known from before it. -/
  | ready (unit : BoundCheck) (fixed : Bool) (measured : Option Extent) (spent : Nat)
  | calling (task : Task)
  | answered (answer : Completion)

/-- The id of the check. -/
def Station.id : Station → CheckId
  | .queued job => job.1.id
  | .ready unit _ _ _ => unit.id
  | .calling task => task.unit.id
  | .answered answer => answer.id

/-- Where a worker stands with a check, and the calls that it has made for it so far. -/
inductive Stands (i : BoundCheck) (fixFirst : Bool) : Station → List CheckCall → Prop
  | queued : Stands i fixFirst (.queued (i, fixFirst)) []
  | fixing (begun : Project) {due : Nat} (tried : i.attemptsFix fixFirst = true) :
      Stands i fixFirst (.calling ⟨i, i.measuredExtent begun, .fixing (i.remediate begun).1, due⟩)
        (i.opening fixFirst begun)
  | ready (begun : Project) :
      Stands i fixFirst (.ready i (i.changes fixFirst begun) (i.measuredExtent begun) (i.spent fixFirst))
        (i.opening fixFirst begun)
  | executing (begun met : Project) {measured : Option Extent} {due : Nat} :
      Stands i fixFirst (.calling ⟨i, measured, .executing (i.invocation fixFirst begun met).result, due⟩)
        (i.invocation fixFirst begun met).calls
  | answered (begun met : Project) :
      Stands i fixFirst (.answered (i.invocation fixFirst begun met).answer) (i.invocation fixFirst begun met).calls

section

variable {i i' : BoundCheck} {fixFirst fixFirst' : Bool} {made : List CheckCall}

theorem Stands.id_eq {p : Station} (stands : Stands i fixFirst p made) : p.id = i.id := by
  cases stands <;> rfl

/-- A check that is begun is measured, and mended if that is wanted and offered. -/
theorem Stands.ready_of_queued (stands : Stands i' fixFirst' (.queued (i, fixFirst)) made) (begun : Project) :
    Stands i' fixFirst' (.ready i (i.changes fixFirst begun) (i.measuredExtent begun) (i.spent fixFirst))
      (made ++ i.opening fixFirst begun) := by
  cases stands
  exact .ready begun

theorem Stands.fixing_of_queued (stands : Stands i' fixFirst' (.queued (i, fixFirst)) made)
    (tried : i.attemptsFix fixFirst = true) (begun : Project) (due : Nat) :
    Stands i' fixFirst' (.calling ⟨i, i.measuredExtent begun, .fixing (i.remediate begun).1, due⟩)
      (made ++ i.opening fixFirst begun) := by
  cases stands
  exact .fixing begun tried

/-- When remediation has ended the evaluation comes next, whatever it has ended with. -/
theorem Stands.ready_of_fixing {fixed : Bool} {measured : Option Extent} {due : Nat}
    (stands : Stands i' fixFirst' (.calling ⟨i, measured, .fixing fixed, due⟩) made) :
    Stands i' fixFirst' (.ready i fixed measured i.check.fixMillis) (made ++ []) := by
  cases stands with
  | fixing begun tried =>
    have ready : Stands i fixFirst' _ _ := .ready begun
    rw [BoundCheck.changes, BoundCheck.spent, tried, Bool.true_and, if_pos rfl] at ready
    rwa [List.append_nil]

theorem Stands.executing_of_ready {fixed : Bool} {measured : Option Extent} {spent : Nat}
    (stands : Stands i' fixFirst' (.ready i fixed measured spent) made) (met : Project) (due : Nat) :
    Stands i' fixFirst' (.calling ⟨i, measured, .executing (i.evaluate fixed measured spent met).1, due⟩)
      (made ++ [⟨i, .evaluate, met⟩]) := by
  cases stands with
  | ready begun => exact .executing begun met

theorem Stands.answered_of_executing {result : CheckResult} {measured : Option Extent} {due : Nat}
    (stands : Stands i' fixFirst' (.calling ⟨i, measured, .executing result, due⟩) made) :
    Stands i' fixFirst' (.answered ⟨i.id, result⟩) (made ++ []) := by
  cases stands with
  | executing begun met =>
    rw [List.append_nil]
    exact .answered begun met

end

/-- A check that was handed over, and what its worker has done. -/
structure Errand where
  unit : BoundCheck
  fixFirst : Bool
  station : Station
  made : List CheckCall
  stands : Stands unit fixFirst station made

/-- What was handed over. -/
def Errand.job (e : Errand) : BoundCheck × Bool := (e.unit, e.fixFirst)

/-- There is one errand for each of some checks; they are at these stations, and a shuffle of their calls is this list. -/
def Roster (jobs : Multiset (BoundCheck × Bool)) (stations : Multiset Station) (journal : List CheckCall) : Prop :=
  ∃ errands : Multiset Errand, errands.map Errand.job = jobs ∧ errands.map Errand.station = stations ∧
    Shuffle (errands.map Errand.made) journal

namespace Roster

variable {jobs : Multiset (BoundCheck × Bool)} {stations : Multiset Station} {journal : List CheckCall}

theorem nothing : Roster 0 0 [] := ⟨0, rfl, rfl, .nothing⟩

/-- The checks that were handed over are where they are under their own ids. -/
theorem ids_eq (roster : Roster jobs stations journal) : jobs.map (·.1.id) = stations.map Station.id := by
  obtain ⟨errands, rfl, rfl, _⟩ := roster
  rw [Multiset.map_map, Multiset.map_map]
  exact Multiset.map_congr rfl fun e _ => e.stands.id_eq.symm

/-- For each station there is an errand that is there. -/
theorem exists_errand (roster : Roster jobs stations journal) {p : Station} (mem : p ∈ stations) :
    ∃ e : Errand, e.job ∈ jobs ∧ e.station = p := by
  obtain ⟨errands, rfl, rfl, _⟩ := roster
  obtain ⟨e, among, rfl⟩ := Multiset.mem_map.mp mem
  exact ⟨e, Multiset.mem_map_of_mem _ among, rfl⟩

/-- Another check is handed over. -/
theorem handOver (roster : Roster jobs stations journal) (i : BoundCheck) (fixFirst : Bool) :
    Roster ((i, fixFirst) ::ₘ jobs) (.queued (i, fixFirst) ::ₘ stations) journal := by
  obtain ⟨errands, rfl, rfl, shuffle⟩ := roster
  refine ⟨⟨i, fixFirst, _, _, .queued⟩ ::ₘ errands, Multiset.map_cons _ _ _, Multiset.map_cons _ _ _, ?_⟩
  rw [Multiset.map_cons]
  exact shuffle.idle

/-- **One worker goes on.** The others stand where they stood. -/
theorem goOn {p : Station} (roster : Roster jobs (p ::ₘ stations) journal) (p' : Station) (more : List CheckCall)
    (step : ∀ i fixFirst made, Stands i fixFirst p made → Stands i fixFirst p' (made ++ more)) :
    Roster jobs (p' ::ₘ stations) (journal ++ more) := by
  classical
  obtain ⟨errands, rfl, held, shuffle⟩ := roster
  obtain ⟨e, mem, rfl, rfl⟩ := (Multiset.map_eq_cons _ _ _ _).mpr held
  obtain ⟨rest, rfl⟩ := Multiset.exists_cons_of_mem mem
  rw [Multiset.erase_cons_head]
  rw [Multiset.map_cons] at shuffle
  refine ⟨⟨e.unit, e.fixFirst, p', _, step _ _ _ e.stands⟩ ::ₘ rest, ?_, Multiset.map_cons _ _ _, ?_⟩
  · rw [Multiset.map_cons, Multiset.map_cons]
    rfl
  · rw [Multiset.map_cons]
    exact shuffle.append more

end Roster

/-! ## The clock keeps its roster and its journal -/

/-- A check is measured and mended on the project that the calls before have left. -/
theorem Threads.opening {root project : Project} {journal : List CheckCall} (threads : Threads root journal project)
    (i : BoundCheck) (fixFirst : Bool) :
    Threads root (journal ++ i.opening fixFirst project)
      (if i.attemptsFix fixFirst then (i.remediate project).2 else project) := by
  have measured := threads.next ⟨i, .measure, project⟩ rfl
  unfold BoundCheck.opening
  split
  · have left : (i.remediate project).2 = (i.check.fix project).2 := by
      unfold BoundCheck.remediate
      rcases i.check.fix project with ⟨_ | _ | _, after⟩ <;> rfl
    rw [left, List.append_cons]
    exact measured.next ⟨i, .fix, project⟩ rfl
  · exact measured

namespace Clock

/-- The calls that are noted, in order. -/
def calls (c : Clock) : List Note := (c.notes.map (·.2)).filter (·.check?.isSome)

/-- Where the checks with a call under way stand. -/
def stations (c : Clock) : Multiset Station := ↑(c.tasks.map Station.calling)

/-- Some checks were handed over: their workers have the calls under way, or stand at some other stations. Their calls
have led from one project to the one that the clock has, and are noted. -/
def Employs (root : Project) (jobs : Multiset (BoundCheck × Bool)) (others : Multiset Station) (c : Clock) : Prop :=
  ∃ journal, Roster jobs (c.stations + others) journal ∧ Threads root journal c.project ∧
    journal.filterMap CheckCall.note? = c.calls

variable {root : Project} {jobs : Multiset (BoundCheck × Bool)} {others : Multiset Station} {c : Clock}

theorem project_note (c : Clock) (n : Note) : (c.note n).project = c.project := rfl

theorem calls_note {n : Note} (isCall : n.check?.isSome = true) : (c.note n).calls = c.calls ++ [n] := by
  rw [calls, note, List.map_append, List.filter_append]
  exact congrArg (c.calls ++ ·) (List.filter_cons_of_pos isCall)

theorem calls_note_seen (event : Event) : (c.note (.seen event)).calls = c.calls := by
  rw [calls, note, List.map_append, List.filter_append]
  exact List.append_nil _

theorem stations_snoc {c' : Clock} {t : Task} (tasks : c'.tasks = c.tasks ++ [t]) (others : Multiset Station) :
    c'.stations + others = .calling t ::ₘ (c.stations + others) := by
  have placed : c'.stations = .calling t ::ₘ c.stations := by
    rw [stations, stations, tasks, List.map_append, ← Multiset.coe_add, add_comm]
    rfl
  rw [placed, Multiset.cons_add]

theorem coe_map_cons {α : Type} (place : α → Station) (a : α) (rest : List α) :
    (↑((a :: rest).map place) : Multiset Station) = place a ::ₘ ↑(rest.map place) := rfl

/-- **One worker goes on on the clock.** The calls that it makes meet the project that the clock has. -/
theorem Employs.goOn {p p' : Station} {others' : Multiset Station} {c' : Clock}
    (employs : Employs root jobs (p ::ₘ others) c) (more : List CheckCall)
    (step : ∀ i fixFirst made, Stands i fixFirst p made → Stands i fixFirst p' (made ++ more))
    (stands : c'.stations + others' = p' ::ₘ (c.stations + others))
    (meets : ∀ journal, Threads root journal c.project → Threads root (journal ++ more) c'.project)
    (noted : c'.calls = c.calls ++ more.filterMap CheckCall.note?) : Employs root jobs others' c' := by
  obtain ⟨journal, roster, threads, same⟩ := employs
  rw [Multiset.add_cons] at roster
  refine ⟨journal ++ more, ?_, meets journal threads, ?_⟩
  · rw [stands]
    exact roster.goOn p' more step
  · rw [List.filterMap_append, same, noted]

/-- A worker that makes no call goes on to another station. -/
theorem Employs.move {p p' : Station} (employs : Employs root jobs (p ::ₘ others) c)
    (step : ∀ i fixFirst made, Stands i fixFirst p made → Stands i fixFirst p' (made ++ [])) :
    Employs root jobs (p' ::ₘ others) c := by
  refine employs.goOn [] step (Multiset.add_cons _ _ _) (fun journal threads => ?_) ?_
  · rwa [List.append_nil]
  · rw [List.filterMap_nil, List.append_nil]

/-- A worker that knows what came before the evaluation evaluates its check. -/
theorem Employs.beginExecute {i : BoundCheck} {fixed : Bool} {measured : Option Extent} {spent : Nat}
    (employs : Employs root jobs (.ready i fixed measured spent ::ₘ others) c) :
    Employs root jobs others (c.beginExecute i fixed measured spent) := by
  refine employs.goOn [⟨i, .evaluate, c.project⟩] (fun i' fixFirst made stands => stands.executing_of_ready c.project _)
    (stations_snoc rfl others) (fun journal threads => ?_) (calls_note (n := .executing i.id) rfl)
  have left : (c.beginExecute i fixed measured spent).project = (i.check.evaluate c.project).2 := by
    show (i.evaluate fixed measured spent c.project).2 = _
    unfold BoundCheck.evaluate
    rcases i.check.evaluate c.project with ⟨_ | _ | _, after⟩ <;> rfl
  rw [left]
  exact threads.next ⟨i, .evaluate, c.project⟩ rfl

/-- A check that was handed over is begun. -/
theorem Employs.begin {i : BoundCheck} {fixFirst : Bool}
    (employs : Employs root jobs (.queued (i, fixFirst) ::ₘ others) c) :
    Employs root jobs others (c.begin i fixFirst) := by
  have threads : ∀ journal, Threads root journal c.project → _ := fun journal threads => threads.opening i fixFirst
  have ready := fun i' fixFirst' made (stands : Stands i' fixFirst' (.queued (i, fixFirst)) made) =>
    stands.ready_of_queued c.project
  unfold Clock.begin
  cases tried : i.attemptsFix fixFirst with
  | false =>
    rw [BoundCheck.changes, BoundCheck.spent, tried, Bool.false_and, if_neg Bool.false_ne_true] at ready
    rw [tried, if_neg Bool.false_ne_true] at threads
    have known : Employs root jobs (.ready i false (i.measuredExtent c.project) 0 ::ₘ others) c :=
      employs.goOn _ ready (Multiset.add_cons _ _ _) threads (by simp [BoundCheck.opening, tried, CheckCall.note?])
    exact known.beginExecute
  | true =>
    rw [BoundCheck.changes, BoundCheck.spent, tried, Bool.true_and, if_pos rfl] at ready
    rw [tried, if_pos rfl] at threads
    have noted : (c.note (.fixing i.id)).calls = c.calls ++ (i.opening fixFirst c.project).filterMap CheckCall.note? := by
      rw [calls_note rfl, BoundCheck.opening, tried]
      rfl
    simp only [if_true, project_note]
    split
    · -- remediation that takes no time is a call that ends as it begins
      rename_i instant
      rw [instant] at ready
      have fixed : Employs root jobs
          (.ready i (i.remediate c.project).1 (i.measuredExtent c.project) 0 ::ₘ others)
          { c.note (.fixing i.id) with project := (i.remediate c.project).2 } :=
        employs.goOn _ ready (Multiset.add_cons _ _ _) threads noted
      exact fixed.beginExecute
    · exact employs.goOn _ (fun i' fixFirst' made stands => stands.fixing_of_queued tried c.project _)
        (stations_snoc rfl others) threads noted

theorem queue_begin (i : BoundCheck) (fixFirst : Bool) : (c.begin i fixFirst).queue = c.queue := by
  unfold Clock.begin
  split
  · simp only
    split <;> rfl
  · rfl

/-- All that waits is begun. -/
theorem Employs.beginQueued (employs : Employs root jobs (↑(c.queue.map Station.queued) + others) c) :
    Employs root jobs others c.beginQueued ∧ c.beginQueued.queue = [] := by
  have general : ∀ (queue : List (BoundCheck × Bool)) (c : Clock),
      Employs root jobs (↑(queue.map Station.queued) + others) c →
      Employs root jobs others (queue.foldl (fun c q => c.begin q.1 q.2) c) ∧
        (queue.foldl (fun c q => c.begin q.1 q.2) c).queue = c.queue := by
    intro queue
    induction queue with
    | nil => exact fun c employs => ⟨by simpa using employs, rfl⟩
    | cons q rest ih =>
      intro c employs
      rw [coe_map_cons, Multiset.cons_add] at employs
      obtain ⟨employs', queue⟩ := ih _ employs.begin
      exact ⟨employs', queue.trans (queue_begin _ _)⟩
  exact general c.queue { c with queue := [] } employs

/-- What ends at an instant goes on to its evaluation or is answered. -/
theorem Employs.conclude {ended : List Task} (employs : Employs root jobs (↑(ended.map Station.calling) + others) c) :
    Employs root jobs (↑((c.conclude ended).1.map Station.answered) + others) (c.conclude ended).2 ∧
      (c.conclude ended).2.queue = c.queue := by
  induction ended generalizing c others with
  | nil => exact ⟨employs, rfl⟩
  | cons task rest ih =>
    obtain ⟨i, measured, phase, due⟩ := task
    rw [coe_map_cons, Multiset.cons_add] at employs
    rw [Clock.conclude]
    cases phase with
    | fixing fixed =>
      have ready := employs.move fun i' fixFirst made stands => stands.ready_of_fixing
      exact ih ready.beginExecute
    | executing result =>
      have settled := employs.move fun i' fixFirst made stands => stands.answered_of_executing
      rw [← Multiset.add_cons] at settled
      obtain ⟨employs', queue⟩ := ih settled
      rw [Multiset.add_cons] at employs'
      exact ⟨by rw [coe_map_cons, Multiset.cons_add]; exact employs', queue⟩

/-- Of the calls under way, those that end by an instant and those that go on. -/
theorem stations_partition (c : Clock) (due : Nat) :
    c.stations = ↑((c.tasks.partition fun t => t.due ≤ due).1.map Station.calling) +
      ↑((c.tasks.partition fun t => t.due ≤ due).2.map Station.calling) := by
  rw [Multiset.coe_add, ← List.map_append, List.partition_eq_filter_filter]
  exact Multiset.coe_eq_coe.mpr ((List.filter_append_perm _ _).symm.map _)

theorem Employs.advance (employs : Employs root jobs others c) (fuel : Nat) :
    Employs root jobs (↑((advance fuel c).1.map Station.answered) + others) (advance fuel c).2 ∧
      (advance fuel c).2.queue = c.queue := by
  induction fuel generalizing c with
  | zero => exact ⟨by simpa [Clock.advance] using employs, rfl⟩
  | succ fuel ih =>
    unfold Clock.advance
    cases c.nextDue with
    | none => exact ⟨by simpa using employs, rfl⟩
    | some due =>
      rw [Employs, stations_partition c due, add_assoc, add_left_comm] at employs
      have concluded := Employs.conclude (c := { c with now := due, tasks := (c.tasks.partition fun t => t.due ≤ due).2 })
        employs
      simp only
      split
      · rename_i none
        rw [List.isEmpty_iff.mp none, List.map_nil, Multiset.coe_nil, zero_add] at concluded
        obtain ⟨employs', queue⟩ := ih concluded.1
        exact ⟨employs', queue.trans concluded.2⟩
      · exact concluded

/-- After a wait nothing is left that waits to be begun, and what has been answered is told. -/
theorem Employs.await (employs : Employs root jobs (↑(c.queue.map Station.queued) + others) c) :
    Employs root jobs (↑(c.await.1.map Station.answered) + others) c.await.2 ∧ c.await.2.queue = [] := by
  obtain ⟨begun, none⟩ := employs.beginQueued
  obtain ⟨employs', queue⟩ := begun.advance (2 * c.beginQueued.tasks.length + 1)
  exact ⟨employs', queue.trans none⟩

/-! ## Histories of the clock -/

variable {project : Project} {given : List (BoundCheck × Bool)} {answers : List Completion} {inFlight : List CheckId}

/-- **At any time each check that was handed over waits, or has a call under way, or is answered, and the journal of the
calls made for them leads to the project that the clock has.** -/
theorem employs_of_history (history : Workers.History workers (atZero project) given answers inFlight c) :
    Employs project ↑given (↑(c.queue.map Station.queued) + ↑(answers.map Station.answered)) c := by
  induction history with
  | here => exact ⟨[], Roster.nothing, .nothing, rfl⟩
  | heard _ event ih =>
    obtain ⟨journal, roster, threads, noted⟩ := ih
    exact ⟨journal, roster, threads, noted.trans (calls_note_seen event).symm⟩
  | @handed given answers _ c _ i fixFirst ih =>
    obtain ⟨journal, roster, threads, noted⟩ := ih
    refine ⟨journal, ?_, threads, noted⟩
    have given' : (↑(given ++ [(i, fixFirst)]) : Multiset (BoundCheck × Bool)) = (i, fixFirst) ::ₘ ↑given := by
      rw [← Multiset.coe_add, add_comm]
      rfl
    have queue' : (↑((c.queue ++ [(i, fixFirst)]).map Station.queued) : Multiset Station) =
        .queued (i, fixFirst) ::ₘ ↑(c.queue.map Station.queued) := by
      rw [List.map_append, ← Multiset.coe_add, add_comm]
      rfl
    have handed := roster.handOver i fixFirst
    rw [← Multiset.add_cons, ← Multiset.cons_add, ← queue', ← given'] at handed
    exact handed
  | @waited given answers _ c _ ih =>
    obtain ⟨employs, none⟩ := ih.await
    show Employs project _ (↑(c.await.2.queue.map Station.queued) + ↑((answers ++ c.await.1).map Station.answered))
      c.await.2
    rw [none, List.map_nil, Multiset.coe_nil, zero_add, List.map_append, ← Multiset.coe_add, add_comm]
    exact employs

end Clock

end GateRunner
