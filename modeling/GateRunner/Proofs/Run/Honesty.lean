import GateRunner.Proofs.Run.Errands

/-!
# Workers that carry out what they are handed

Workers may answer anything. Those of a real run do not: of each check that they are handed they make the calls that are
due, and the result with which they answer is what became of these. When the calls are made, and which calls into other
checks come in between, is left to them, and so is in what order and in which batches checks finish; but every call meets
the project as the calls before it have left it, from the project of the run on (`CarriedOut`). `Workers.Honest` asks
this of workers whenever nothing is in flight.

**The laws** (`Clock.diligent`, `Clock.honest`, `Clock.faithful`): the workers on the virtual clock always answer, they
are honest, and if each check of a run comes out in one way only, they are faithful to it. They always answer because
each jump of the clock ends a call, and of a check only remediation is followed by another call.
-/

namespace GateRunner

/-- Some checks were handed over and each was invoked once: there is one answer for each invocation, and a shuffle of
their calls leads from one project to another. -/
structure CarriedOut (root : Project) (given : List (BoundCheck × Bool)) (answers : List Completion)
    (invocations : Multiset Invocation) (journal : List CheckCall) (last : Project) : Prop where
  jobs : invocations.map Invocation.job = ↑given
  answers : invocations.map Invocation.answer = ↑answers
  shuffled : Shuffle (invocations.map (·.calls)) journal
  threaded : Threads root journal last

/-- Workers that, from a state on and on a project, have carried out all that they were handed whenever nothing is in
flight. -/
def Workers.Honest {σ : Type} (w : Workers σ) (root : Project) (start : σ) : Prop :=
  ∀ given answers world, History w start given answers [] world →
    ∃ invocations journal last, CarriedOut root given answers invocations journal last

/-! ## Waiting brings answers -/

/-- The call under way is remediation. -/
def Task.mending (t : Task) : Bool :=
  match t.phase with
  | .fixing _ => true
  | .executing _ => false

namespace Clock

variable {c : Clock}

/-- Evaluation is a call under way that is not remediation. -/
theorem tasks_beginExecute (c : Clock) (i : BoundCheck) (fixed : Bool) (measured : Option Extent) (spent : Nat) :
    ∃ t : Task, t.mending = false ∧ (c.beginExecute i fixed measured spent).tasks = c.tasks ++ [t] := ⟨_, rfl, rfl⟩

/-- Of the calls that end at an instant, each remediation is followed by a call that is none, and each other call by an
answer. -/
theorem conclude_counts (c : Clock) (ended : List Task) :
    (c.conclude ended).2.tasks.length = c.tasks.length + ended.countP Task.mending ∧
    (c.conclude ended).2.tasks.countP Task.mending = c.tasks.countP Task.mending ∧
    (c.conclude ended).1.length + ended.countP Task.mending = ended.length := by
  induction ended generalizing c with
  | nil => exact ⟨rfl, rfl, rfl⟩
  | cons task rest ih =>
    obtain ⟨i, measured, phase, due⟩ := task
    rw [Clock.conclude]
    cases phase with
    | fixing fixed =>
      obtain ⟨t, evaluates, tasks⟩ := c.tasks_beginExecute i fixed measured i.check.fixMillis
      obtain ⟨length, mending, batch⟩ := ih (c.beginExecute i fixed measured i.check.fixMillis)
      rw [tasks, List.length_append, List.length_singleton] at length
      rw [tasks, List.countP_append, List.countP_singleton, evaluates, if_neg Bool.false_ne_true] at mending
      rw [List.countP_cons_of_pos rfl, List.length_cons]
      exact ⟨by simp only; omega, mending, by simp only; omega⟩
    | executing result =>
      obtain ⟨length, mending, batch⟩ := ih c
      rw [List.countP_cons_of_neg (by simp [Task.mending]), List.length_cons]
      exact ⟨length, mending, by simp only [List.length_cons]; omega⟩

/-- While a call is under way, waiting brings an answer, if it goes on until all remediation has ended. -/
theorem advance_ne_nil {fuel : Nat} (busy : c.tasks ≠ []) (enough : c.tasks.countP Task.mending < fuel) :
    (advance fuel c).1 ≠ [] := by
  induction fuel generalizing c with
  | zero => exact absurd enough (Nat.not_lt_zero _)
  | succ fuel ih =>
    unfold Clock.advance
    cases next : c.nextDue with
    | none => exact absurd (List.map_eq_nil_iff.mp (List.min?_eq_none_iff.mp next)) busy
    | some due =>
      obtain ⟨t, mem, dueThen⟩ := List.mem_map.mp (List.min?_mem next)
      have first : t ∈ c.tasks.filter fun other => other.due ≤ due := List.mem_filter.mpr ⟨mem, by simp [dueThen]⟩
      have parts : (c.tasks.filter fun other => other.due ≤ due).countP Task.mending +
          (c.tasks.filter (not ∘ fun other => decide (other.due ≤ due))).countP Task.mending =
            c.tasks.countP Task.mending := by
        rw [← List.countP_append]
        exact (List.filter_append_perm _ _).countP_eq _
      have counts := conclude_counts
        { c with now := due, tasks := c.tasks.filter (not ∘ fun other => decide (other.due ≤ due)) }
        (c.tasks.filter fun other => other.due ≤ due)
      simp only at counts
      obtain ⟨length, mending, batch⟩ := counts
      have some := List.length_pos_of_mem first
      simp only [List.partition_eq_filter_filter]
      split
      · -- then all that has ended was remediation
        rename_i none
        rw [List.isEmpty_iff.mp none, List.length_nil, Nat.zero_add] at batch
        refine ih (fun idle => ?_) ?_
        · rw [idle, List.length_nil] at length
          omega
        · exact Nat.lt_of_le_of_lt (Nat.le_of_eq mending) (by omega)
      · rename_i answered
        exact fun none => answered (List.isEmpty_iff.mpr none)


/-! ## What is in flight on the clock -/

variable {project : Project} {given : List (BoundCheck × Bool)} {answers : List Completion} {inFlight : List CheckId}

/-- The checks that were handed over wait, have a call under way, or are answered. -/
theorem ids_of_history (history : Workers.History workers (atZero project) given answers inFlight c) :
    (↑(given.map (·.1.id)) : Multiset CheckId) =
      ↑(c.tasks.map (·.unit.id)) + (↑(c.queue.map (·.1.id)) + ↑(answers.map (·.id))) := by
  obtain ⟨_, roster, _⟩ := employs_of_history history
  have ids := roster.ids_eq
  rw [stations, Multiset.map_add, Multiset.map_add] at ids
  simp only [Multiset.map_coe, List.map_map] at ids
  exact ids

theorem ids_le_of_flight (history : Workers.History workers (atZero project) given answers inFlight c)
    (flight : (↑(given.map (·.1.id)) : Multiset CheckId) = ↑inFlight + ↑(answers.map (·.id))) :
    (↑(c.await.1.map (·.id)) : Multiset CheckId) ≤ ↑inFlight := by
  have after := ids_of_history history.waited
  rw [flight, List.map_append, ← Multiset.coe_add] at after
  have split : (↑inFlight : Multiset CheckId) = ↑(c.await.2.tasks.map (·.unit.id)) +
      ↑(c.await.2.queue.map (·.1.id)) + ↑(c.await.1.map (·.id)) := by
    refine add_right_cancel (after.trans ?_)
    rw [add_assoc, add_assoc, add_comm (Multiset.ofList (answers.map (·.id)))]
    rfl
  rw [split]
  exact Multiset.le_add_left _ _

/-- What is in flight is what was handed over and has no answer yet. -/
theorem flight_of_history (history : Workers.History workers (atZero project) given answers inFlight c) :
    (↑(given.map (·.1.id)) : Multiset CheckId) = ↑inFlight + ↑(answers.map (·.id)) := by
  induction history with
  | here => rfl
  | heard _ _ ih => exact ih
  | handed _ i fixFirst ih =>
    rw [List.map_append, ← Multiset.coe_add, ih, ← Multiset.coe_add, add_right_comm]
    rfl
  | @waited _ answers inFlight c before ih =>
    have fewer : (↑((workers.await c inFlight).1.map (·.id)) : Multiset CheckId) ≤ ↑inFlight :=
      ids_le_of_flight before ih
    rw [ih, List.map_append, ← Multiset.coe_add, ← Multiset.coe_sub, add_left_comm, tsub_add_cancel_of_le fewer,
      add_comm]

/-- A wait answers for what is in flight only. -/
theorem ids_await_le (history : Workers.History workers (atZero project) given answers inFlight c) :
    (↑(c.await.1.map (·.id)) : Multiset CheckId) ≤ ↑inFlight :=
  ids_le_of_flight history (flight_of_history history)

theorem length_of_history (history : Workers.History workers (atZero project) given answers inFlight c) :
    given.length = inFlight.length + answers.length := by
  have cards := congrArg Multiset.card (flight_of_history history)
  simpa only [Multiset.card_add, Multiset.coe_card, List.length_map] using cards

/-- **As long as a check is in flight, waiting brings an answer.** -/
theorem await_ne_nil (history : Workers.History workers (atZero project) given answers inFlight c)
    (busy : inFlight ≠ []) : c.await.1 ≠ [] := by
  obtain ⟨_, roster, _⟩ := (employs_of_history history).beginQueued.1
  have cards := congrArg Multiset.card roster.ids_eq
  simp only [Multiset.card_map, stations, Multiset.card_add, Multiset.coe_card, List.length_map] at cards
  have length := length_of_history history
  have positive := List.length_pos_iff.mpr busy
  refine advance_ne_nil (fun idle => ?_) (Nat.lt_succ_of_le ?_)
  · rw [idle, List.length_nil] at cards
    omega
  · exact Nat.le_trans List.countP_le_length (by omega)

/-- **The workers on the virtual clock always answer.** -/
theorem diligent (jobs : List (BoundCheck × Bool)) (project : Project) : workers.Diligent jobs (atZero project) := by
  intro given answers inFlight c history _ busy
  obtain ⟨answer, mem⟩ := List.exists_mem_of_ne_nil _ (await_ne_nil history busy)
  exact ⟨answer, mem, Multiset.mem_coe.mp (Multiset.mem_of_le (ids_await_le history) (List.mem_map_of_mem mem))⟩

/-! ## What is answered on the clock -/

/-- **The workers on the virtual clock are faithful to what each check comes out as**, if it always comes out so. -/
theorem faithful {jobs : List (BoundCheck × Bool)} {outcome : CheckId → CheckResult} (project : Project)
    (fixed : ∀ q ∈ jobs, ∀ begun met, (q.1.invocation q.2 begun met).result = outcome q.1.id) :
    workers.Faithful jobs (atZero project) outcome := by
  intro given answers inFlight c history within x mem
  have answered : Station.answered x ∈ (answers ++ c.await.1).map Station.answered :=
    List.mem_map_of_mem (List.mem_append_right _ mem)
  obtain ⟨_, roster, _⟩ := employs_of_history history.waited
  obtain ⟨⟨i, fixFirst, station, made, stands⟩, own, rfl⟩ := roster.exists_errand
    (Multiset.mem_add.mpr (.inr (Multiset.mem_add.mpr (.inr (Multiset.mem_coe.mpr answered)))))
  cases stands with
  | answered begun met => exact fixed (i, fixFirst) (within (Multiset.mem_coe.mp own)) begun met

end Clock

/-- An errand that is answered is an invocation. -/
theorem Errand.exists_invocation (e : Errand) {answer : Completion} (settled : e.station = .answered answer) :
    ∃ begun met, Station.answered (e.unit.invocation e.fixFirst begun met).answer = e.station ∧
      (e.unit.invocation e.fixFirst begun met).calls = e.made := by
  obtain ⟨i, fixFirst, station, made, stands⟩ := e
  cases stands with
  | answered begun met => exact ⟨begun, met, rfl, rfl⟩
  | _ => cases settled

/-- The invocation takes the time that its check says: the evaluation by itself, and with remediation if that is tried. -/
def Invocation.OnTime (v : Invocation) : Prop :=
  v.took = .ofMillis v.unit.check.evaluateMillis ∧
    v.whole = .ofMillis ((if v.Tried then v.unit.check.fixMillis else 0) + v.unit.check.evaluateMillis)

theorem onTime_invocation (i : BoundCheck) (fixFirst : Bool) (begun met : Project) :
    (i.invocation fixFirst begun met).OnTime :=
  ⟨rfl, congrArg (fun spent => Duration.ofMillis (spent + _)) (if_congr BoundCheck.tried_work_iff.symm rfl rfl)⟩

/-- Errands of which each is answered are invocations. -/
theorem exists_invocations {errands : Multiset Errand} (settled : ∀ e ∈ errands, ∃ answer, e.station = .answered answer) :
    ∃ invocations : Multiset Invocation, invocations.map Invocation.job = errands.map Errand.job ∧
      invocations.map (Station.answered ·.answer) = errands.map Errand.station ∧
      invocations.map (·.calls) = errands.map Errand.made ∧ ∀ v ∈ invocations, v.OnTime := by
  induction errands using Multiset.induction_on with
  | empty => exact ⟨0, rfl, rfl, rfl, fun v mem => absurd mem (Multiset.notMem_zero v)⟩
  | cons e errands ih =>
    obtain ⟨answer, stands⟩ := settled e (Multiset.mem_cons_self e errands)
    obtain ⟨begun, met, station, made⟩ := e.exists_invocation stands
    obtain ⟨invocations, jobs, stations, calls, onTime⟩ :=
      ih fun other mem => settled other (Multiset.mem_cons_of_mem mem)
    refine ⟨e.unit.invocation e.fixFirst begun met ::ₘ invocations, ?_, ?_, ?_, fun v mem => ?_⟩
    · rw [Multiset.map_cons, Multiset.map_cons, jobs]
      rfl
    · rw [Multiset.map_cons, Multiset.map_cons, station, stations]
    · rw [Multiset.map_cons, Multiset.map_cons, made, calls]
    · rcases Multiset.mem_cons.mp mem with rfl | mem
      · exact onTime_invocation _ _ begun met
      · exact onTime v mem

/-- Where nothing waits and no call is under way, there is an invocation for each answer. -/
theorem Roster.exists_invocations {jobs : Multiset (BoundCheck × Bool)} {answers : List Completion}
    {journal : List CheckCall} (roster : Roster jobs ↑(answers.map Station.answered) journal) :
    ∃ invocations : Multiset Invocation, invocations.map Invocation.job = jobs ∧
      invocations.map Invocation.answer = ↑answers ∧ Shuffle (invocations.map (·.calls)) journal ∧
      ∀ v ∈ invocations, v.OnTime := by
  obtain ⟨errands, rfl, stations, shuffle⟩ := roster
  obtain ⟨invocations, jobs, answered, made, onTime⟩ := GateRunner.exists_invocations fun e mem => by
    have mem' : e.station ∈ answers.map Station.answered := by
      rw [← Multiset.mem_coe, ← stations]
      exact Multiset.mem_map_of_mem _ mem
    obtain ⟨answer, _, same⟩ := List.mem_map.mp mem'
    exact ⟨answer, same.symm⟩
  refine ⟨invocations, jobs, ?_, made ▸ shuffle, onTime⟩
  have injective : Function.Injective Station.answered := fun _ _ same => Station.answered.inj same
  refine Multiset.map_injective injective ?_
  rw [Multiset.map_map, Multiset.map_coe, ← stations]
  exact answered

namespace Clock

variable {project : Project} {given : List (BoundCheck × Bool)} {answers : List Completion} {c : Clock}

/-- **On the virtual clock, whatever was handed over has been carried out when nothing is in flight**, and the project is
then as the calls have left it. -/
theorem exists_carriedOut (history : Workers.History workers (atZero project) given answers [] c) :
    ∃ invocations journal, CarriedOut project given answers invocations journal c.project ∧
      journal.filterMap CheckCall.note? = c.calls ∧ ∀ v ∈ invocations, v.OnTime := by
  obtain ⟨journal, roster, threads, noted⟩ := employs_of_history history
  have length := length_of_history history
  have cards := congrArg Multiset.card roster.ids_eq
  simp only [Multiset.card_map, stations, Multiset.card_add, Multiset.coe_card, List.length_map,
    List.length_nil] at cards length
  have queue : c.queue = [] := List.length_eq_zero_iff.mp (by omega)
  have tasks : c.tasks = [] := List.length_eq_zero_iff.mp (by omega)
  rw [stations, queue, tasks, List.map_nil, List.map_nil, Multiset.coe_nil, zero_add, zero_add] at roster
  obtain ⟨invocations, jobs, answered, shuffled, onTime⟩ := roster.exists_invocations
  exact ⟨invocations, journal, ⟨jobs, answered, shuffled, threads⟩, noted, onTime⟩

/-- **The workers on the virtual clock are honest.** -/
theorem honest (project : Project) : workers.Honest project (atZero project) := by
  intro given answers c history
  obtain ⟨invocations, journal, carriedOut, _⟩ := exists_carriedOut history
  exact ⟨invocations, journal, _, carriedOut⟩

end Clock

end GateRunner
