import GateRunner.Proofs.WorkingSet.Distinct
import GateRunner.Proofs.WorkingSet.Grounded

/-!
# All that comes along

The requested checks bring along what they depend on, as far as it is registered. Each check that comes along comes for
one before it (`grounded_bringAlong`). The queue runs dry with a set that is closed under registered dependencies
(`withDependencies_closed`) and holds no more than that asks for (`withDependencies_least`). Which ids have been met
decides in what order checks come, and not which.

All this looks at a registry and a configuration only where it binds checks, so where they bind alike they give the same
set, in the same order (`withDependencies_congr`, `workingSet_congr`).
-/

namespace GateRunner

namespace WorkingSet

variable {g : Registry} {config config' : Configuration}

/-! ## The dependencies of one check -/

/-- What has been met after a list of dependencies. -/
theorem mem_pull_met {met deps : List CheckId} {id : CheckId} :
    id ∈ (pull g config met deps).1 ↔ id ∈ met ∨ id ∈ deps := by
  induction deps generalizing met with
  | nil => simp only [pull, List.not_mem_nil, or_false]
  | cons dep rest ih =>
    rw [pull]
    split
    · rename_i known
      rw [ih, List.mem_cons]
      exact ⟨fun h => h.imp_right .inr, fun h => h.elim .inl fun h => h.elim (fun e => .inl (e ▸ known)) .inr⟩
    · simp only [ih, List.mem_cons, or_assoc, or_left_comm]

/-- A list of dependencies brings along what is bound for those that have not been met. -/
theorem mem_pull {met deps : List CheckId} {i : BoundCheck} :
    i ∈ (pull g config met deps).2 ↔ ∃ d ∈ deps, d ∉ met ∧ g.bind? config d = some i := by
  induction deps generalizing met with
  | nil => simp only [pull, List.not_mem_nil, false_and, exists_false]
  | cons dep rest ih =>
    rw [pull]
    split
    · rename_i known
      rw [ih]
      constructor
      · rintro ⟨d, hd, new, bound⟩
        exact ⟨d, List.mem_cons_of_mem _ hd, new, bound⟩
      · rintro ⟨d, hd, new, bound⟩
        exact ⟨d, (List.mem_cons.mp hd).resolve_left fun e => new (e ▸ known), new, bound⟩
    · rename_i new
      simp only [List.mem_append, Option.mem_toList, ih, List.mem_cons, not_or]
      constructor
      · rintro (bound | ⟨d, hd, ⟨_, new⟩, bound⟩)
        · exact ⟨dep, .inl rfl, new, bound⟩
        · exact ⟨d, .inr hd, new, bound⟩
      · rintro ⟨d, hd, new, bound⟩
        by_cases same : d = dep
        · exact .inl (same ▸ bound)
        · exact .inr ⟨d, hd.resolve_left same, ⟨same, new⟩, bound⟩

/-! ## The queue -/

/-- Some check brings another one along: it declares a dependency for which the other one is bound. -/
def BringsAlong (g : Registry) (config : Configuration) (present : List BoundCheck) (i : BoundCheck) : Prop :=
  ∃ j ∈ present, ∃ d ∈ j.dependencies, g.bind? config d = some i

theorem BringsAlong.mono {before after : List BoundCheck} {i : BoundCheck} (sub : before ⊆ after) :
    BringsAlong g config before i → BringsAlong g config after i := by
  rintro ⟨j, hj, brings⟩
  exact ⟨j, sub hj, brings⟩

/-- What comes along comes for a check of the queue, or for one that came along before it. -/
theorem grounded_bringAlong (g : Registry) (config : Configuration) (met : List CheckId) (queue : List BoundCheck) :
    Grounded (BringsAlong g config) queue (bringAlong g config met queue) := by
  fun_induction bringAlong g config met queue with
  | case1 => exact grounded_nil
  | case2 met i queue brought ih =>
    refine grounded_append.mpr ⟨grounded_of_forall (fun _ _ _ => .mono) fun j hj => ?_, ih.mono (fun _ _ _ => .mono) ?_⟩
    · obtain ⟨d, hd, _, bound⟩ := mem_pull.mp hj
      exact ⟨i, List.mem_cons_self, d, hd, bound⟩
    · exact List.subset_cons_self i (queue ++ brought.2)

/-- A queue brings along only what spreads from it along registered dependencies. -/
theorem bringAlong_least {P : BoundCheck → Prop}
    (spreads : ∀ i, P i → ∀ d ∈ i.dependencies, ∀ j, g.bind? config d = some j → P j) (met : List CheckId)
    (queue : List BoundCheck) (start : ∀ i ∈ queue, P i) : ∀ i ∈ bringAlong g config met queue, P i := by
  refine (grounded_bringAlong g config met queue).forall start ?_
  rintro before _ held i _ ⟨j, hj, d, hd, bound⟩
  exact spreads j (held j hj) d hd i bound

/-- A registered dependency of what is in a queue or comes along has been met before, or comes along. -/
theorem bringAlong_closed (met : List CheckId) (queue : List BoundCheck) :
    ∀ i ∈ queue ++ bringAlong g config met queue, ∀ d ∈ i.dependencies, ∀ j, g.bind? config d = some j →
      d ∈ met ∨ j ∈ bringAlong g config met queue := by
  fun_induction bringAlong g config met queue with
  | case1 => exact fun _ hi => absurd hi List.not_mem_nil
  | case2 met first queue found ih =>
    intro i hi d hd j bound
    -- what the first check of the queue brings along is met from then on, and stands in the queue
    have later : d ∈ first.dependencies → d ∈ met ∨ j ∈ found.2 ++ bringAlong g config found.1 (queue ++ found.2) := by
      intro hd
      by_cases known : d ∈ met
      · exact .inl known
      · exact .inr (List.mem_append_left _ (mem_pull.mpr ⟨d, hd, known, bound⟩))
    rw [List.cons_append, List.mem_cons, ← List.append_assoc] at hi
    rcases hi with rfl | hi
    · exact later hd
    · rcases ih i hi d hd j bound with known | comes
      · exact (mem_pull_met.mp known).elim .inl later
      · exact .inr (List.mem_append_right _ comes)

/-! ## The working set -/

/-- **A registered dependency of a check in the working set is in the working set.** -/
theorem withDependencies_closed (stable : g.IdStable) {requested : List BoundCheck} :
    ∀ i ∈ withDependencies g config requested, ∀ d ∈ i.dependencies, ∀ j, g.bind? config d = some j →
      d ∈ (withDependencies g config requested).map (·.id) := by
  intro i hi d hd j bound
  rw [withDependencies, List.map_append, List.mem_append]
  refine (bringAlong_closed _ _ i hi d hd j bound).imp_right fun comes => ?_
  exact List.mem_map.mpr ⟨j, comes, stable.id_of_bind? bound⟩

/-- **The working set holds no more than what spreads from the requested checks.** -/
theorem withDependencies_least {P : BoundCheck → Prop}
    (spreads : ∀ i, P i → ∀ d ∈ i.dependencies, ∀ j, g.bind? config d = some j → P j) {requested : List BoundCheck}
    (start : ∀ i ∈ requested, P i) : ∀ i ∈ withDependencies g config requested, P i := by
  intro i hi
  exact (List.mem_append.mp hi).elim (start i) (bringAlong_least spreads _ _ start i)

/-! ## Registries and configurations that bind alike -/

variable {g' : Registry} (same : g'.bind? config' = g.bind? config)
include same

theorem pull_congr (met deps : List CheckId) : pull g' config' met deps = pull g config met deps := by
  induction deps generalizing met with
  | nil => rfl
  | cons dep rest ih => simp only [pull, ih, same]

theorem bringAlong_congr (met : List CheckId) (queue : List BoundCheck) :
    bringAlong g' config' met queue = bringAlong g config met queue := by
  fun_induction bringAlong g config met queue with
  | case1 => rw [bringAlong]
  | case2 met i queue found ih => rw [bringAlong, pull_congr same, ih]

theorem withDependencies_congr (requested : List BoundCheck) :
    withDependencies g' config' requested = withDependencies g config requested := by
  rw [withDependencies, withDependencies, bringAlong_congr same]

end WorkingSet

/-! ## What some names stand for, and all that comes along -/

namespace Registry

variable {g : Registry} {config config' : Configuration} {names : List String}

/-- The working set of some names: the checks that they stand for, with all that these depend on. -/
def workingSet (g : Registry) (config : Configuration) (names : List String) : List BoundCheck :=
  WorkingSet.withDependencies g config (g.select config names)

/-- With the same settings for every gate, names stand for the same working set. -/
theorem workingSet_congr (same : ∀ id, config'.settingsOf id = config.settingsOf id) (names : List String) :
    g.workingSet config' names = g.workingSet config names := by
  have binds : g.bind? config' = g.bind? config := by
    funext id
    simp only [bind?, same]
  rw [workingSet, workingSet, WorkingSet.withDependencies_congr binds, select, select, binds]

namespace IdStable

variable (stable : g.IdStable)
include stable

/-- The checks of a working set are distinct. -/
theorem nodup_workingSet (names : List String) : ((g.workingSet config names).map (·.id)).Nodup :=
  WorkingSet.nodup_withDependencies stable (stable.nodup_select names)

/-- A check of a working set is what is bound for its id. -/
theorem bind?_of_mem_workingSet {i : BoundCheck} (hi : i ∈ g.workingSet config names) :
    g.bind? config i.id = some i := by
  have own : ∀ {id : CheckId} {j : BoundCheck}, g.bind? config id = some j → g.bind? config j.id = some j :=
    fun bound => (stable.id_of_bind? bound).symm ▸ bound
  refine WorkingSet.withDependencies_least (P := fun j => g.bind? config j.id = some j)
    (fun _ _ _ _ _ bound => own bound) (fun j hj => ?_) i hi
  obtain ⟨_, _, bound⟩ := mem_select.mp hj
  exact own bound

end IdStable

end Registry

end GateRunner
