import GateRunner.Proofs.Schedule.Replay
import GateRunner.Proofs.WorkingSet.Expansion
import Mathlib.Logic.Function.Iterate
import Mathlib.Order.Bounds.Defs

/-!
# The least set with all dependencies

The search for dependencies looks at one check after the other. What a check brings along waits behind the others, and
is looked at in its turn (`Search.next`). There are as many turns as there are checks in the working set, for registries
with circles too, and then nothing waits any more (`Search.iterate_next`).

An id may stand for two checks, the one that was requested and the one that the registry binds. The requested one is in
the set, and its dependencies count (`unit?_of_mem`).

**The law** (`withDependencies_least_closure`): the ids of the working set are the least set that has the requested ones
and is closed under registered dependencies.
-/

namespace GateRunner.WorkingSet

variable {g : Registry} {config : Configuration} {requested : List BoundCheck}

/-! ## One turn after the other -/

/-- What the search for dependencies goes by: the ids met, the checks that wait to be looked at, and the working set so
far. -/
structure Search where
  met : List CheckId
  queue : List BoundCheck
  found : List BoundCheck

namespace Search

/-- At first the requested checks are met, wait, and are the working set. -/
def start (requested : List BoundCheck) : Search := ⟨requested.map (·.id), requested, requested⟩

/-- Looks at the first check that waits. -/
def next (g : Registry) (config : Configuration) (s : Search) : Search :=
  match s.queue with
  | [] => s
  | i :: queue =>
    let brought := pull g config s.met i.dependencies
    ⟨brought.1, queue ++ brought.2, s.found ++ brought.2⟩

/-- **After a turn for each check that waits or comes along, nothing waits.** -/
theorem iterate_next (g : Registry) (config : Configuration) (met : List CheckId) (queue found : List BoundCheck) :
    ∃ met', (next g config)^[(queue ++ bringAlong g config met queue).length] ⟨met, queue, found⟩ =
      ⟨met', [], found ++ bringAlong g config met queue⟩ := by
  fun_induction bringAlong g config met queue generalizing found with
  | case1 met => exact ⟨met, by simp⟩
  | case2 met i queue brought ih =>
    obtain ⟨met', rest⟩ := ih (found ++ brought.2)
    refine ⟨met', ?_⟩
    rw [List.cons_append, List.length_cons, Function.iterate_succ_apply, ← List.append_assoc, ← List.append_assoc]
    exact rest

end Search

/-! ## Where the checks come from -/

/-- The check that an id stands for: the requested one, or else the one that is bound for it. -/
def unit? (g : Registry) (config : Configuration) (requested : List BoundCheck) (id : CheckId) : Option BoundCheck :=
  (requested.find? fun i => i.id = id).or (g.bind? config id)

/-- A set of ids that has the requested ones, and with each id the registered dependencies of the check that it stands
for. -/
structure Closed (g : Registry) (config : Configuration) (requested : List BoundCheck) (ids : Set CheckId) : Prop where
  asked : ∀ i ∈ requested, i.id ∈ ids
  onward : ∀ id ∈ ids, ∀ i, unit? g config requested id = some i →
    ∀ d ∈ i.dependencies, g.contains d = true → d ∈ ids

/-- In a stable registry, what comes along is bound for its id. -/
theorem bind?_of_bringsAlong (stable : g.IdStable) {present : List BoundCheck} {i : BoundCheck}
    (brings : BringsAlong g config present i) :
    g.bind? config i.id = some i ∧ ∃ j ∈ present, i.id ∈ j.dependencies := by
  obtain ⟨j, hj, d, hd, bound⟩ := brings
  have own : i.id = d := stable.id_of_bind? bound
  exact ⟨own ▸ bound, j, hj, own ▸ hd⟩

theorem brings_of_mem_bringAlong {met : List CheckId} {queue : List BoundCheck} {i : BoundCheck}
    (hi : i ∈ bringAlong g config met queue) : ∃ present, BringsAlong g config present i := by
  obtain ⟨before, after, split⟩ := List.append_of_mem hi
  exact ⟨_, grounded_bringAlong g config met queue before i after split⟩

variable (stable : g.IdStable) (distinct : (requested.map (·.id)).Nodup)
include stable distinct

/-- Each check of the working set is the one that its id stands for. -/
theorem unit?_of_mem {i : BoundCheck} (hi : i ∈ withDependencies g config requested) :
    unit? g config requested i.id = some i := by
  rcases List.mem_append.mp hi with asked | comes
  · rw [unit?, CheckId.find?_of_nodup distinct asked, Option.some_or]
  · have new : requested.find? (fun j => j.id = i.id) = none := by
      refine List.find?_eq_none.mpr fun j hj same => ?_
      exact (bringAlong_distinct stable config _ requested).2 i comes
        (List.mem_map.mpr ⟨j, hj, of_decide_eq_true same⟩)
    obtain ⟨_, brings⟩ := brings_of_mem_bringAlong comes
    rw [unit?, new, Option.none_or]
    exact (bind?_of_bringsAlong stable brings).1

/-! ## The law -/

omit distinct in
/-- What a check of the working set declares is in the set, or is not registered. -/
theorem mem_or_unregistered {i : BoundCheck} (hi : i ∈ withDependencies g config requested) {d : CheckId}
    (declared : d ∈ i.dependencies) :
    d ∈ (withDependencies g config requested).map (·.id) ∨ g.contains d = false := by
  cases registered : g.contains d with
  | false => exact .inr rfl
  | true =>
    obtain ⟨j, bound⟩ := Registry.exists_bind?_of_contains registered config
    exact .inl (withDependencies_closed stable i hi d declared j bound)

/-- The ids of the working set are the least closed set. -/
theorem isLeast_withDependencies :
    IsLeast {ids | Closed g config requested ids} {id | id ∈ (withDependencies g config requested).map (·.id)} := by
  constructor
  · constructor
    · intro i hi
      exact List.mem_map.mpr ⟨i, List.mem_append_left _ hi, rfl⟩
    · intro id hid i stands d declared registered
      obtain ⟨j, hj, rfl⟩ := List.mem_map.mp hid
      obtain rfl : j = i := Option.some.inj ((unit?_of_mem stable distinct hj).symm.trans stands)
      rcases mem_or_unregistered stable hj declared with mem | absent
      · exact mem
      · rw [registered] at absent
        cases absent
  · intro ids closed id hid
    obtain ⟨i, hi, rfl⟩ := List.mem_map.mp hid
    rcases List.mem_append.mp hi with asked | comes
    · exact closed.asked i asked
    · -- what comes along is a registered dependency of a check before it, whose id is in every closed set
      refine (grounded_bringAlong g config _ requested).forall closed.asked ?_ i comes
      intro before sub held j _ brings
      obtain ⟨bound, k, hk, declared⟩ := bind?_of_bringsAlong stable brings
      exact closed.onward k.id (held k hk) k (unit?_of_mem stable distinct (sub hk)) _ declared
        (Registry.contains_of_bind? bound)

/-- **The working set is the least set with all registered dependencies.** The search for it comes to an end after one
turn for each of its checks. It begins with what was requested, holds no id twice, and has what its checks declare, as
far as that is registered. What comes along is registered, is bound under its settings in the configuration, and is
declared by a check before it. -/
theorem withDependencies_least_closure (config : Configuration) :
    let units := withDependencies g config requested
    (∃ met, (Search.next g config)^[units.length] (.start requested) = ⟨met, [], units⟩) ∧
    requested <+: units ∧
    (units.map (·.id)).Nodup ∧
    (∀ i ∈ units, ∀ d ∈ i.dependencies, d ∈ units.map (·.id) ∨ g.contains d = false) ∧
    (∀ before i after, units = requested ++ before ++ i :: after →
      (∃ r, g.find? i.id = some r ∧ i = .ofCheck (r.maker (config.settingsOf i.id))) ∧
        ∃ j ∈ requested ++ before, i.id ∈ j.dependencies) ∧
    IsLeast {ids | Closed g config requested ids} {id | id ∈ units.map (·.id)} := by
  intro units
  refine ⟨?_, ?_, ?_, ?_, ?_, ?_⟩
  · exact Search.iterate_next g config _ requested requested
  · exact List.prefix_append requested _
  · exact nodup_withDependencies stable distinct
  · intro i hi d declared
    exact mem_or_unregistered stable hi declared
  · intro before i after split
    have along : bringAlong g config (requested.map (·.id)) requested = before ++ i :: after := by
      rw [List.append_assoc] at split
      exact List.append_cancel_left split
    have brings := grounded_bringAlong g config _ requested before i after along
    obtain ⟨bound, declared⟩ := bind?_of_bringsAlong stable brings
    obtain ⟨r, found, made⟩ := Option.map_eq_some_iff.mp bound
    exact ⟨⟨r, found, made.symm⟩, declared⟩
  · exact isLeast_withDependencies stable distinct

end GateRunner.WorkingSet

namespace GateRunner.SampleGate

/-- Formatting that waits for itself and for linting, which waits for it, and tests that wait for linting and for a check
that nobody has registered. -/
def knotted : Registry :=
  .ofScripts [script "format" ["format", "lint"] true, script "lint" ["format"] true, script "tests" ["ghost", "lint"] true]

theorem knotted_stable : knotted.IdStable := Registry.idStable_ofScripts _

end GateRunner.SampleGate

namespace GateRunner.WorkingSet

/-- The tests bring the knot along, once, and the search for it is over after three turns. -/
theorem sampleGate_knot :
    let requested := SampleGate.knotted.select .default ["python:tests"]
    let units := withDependencies SampleGate.knotted .default requested
    units.map (·.id.name) = ["tests", "lint", "format"] ∧
    (∃ met, (Search.next SampleGate.knotted .default)^[3] (.start requested) = ⟨met, [], units⟩) ∧
    IsLeast {ids | Closed SampleGate.knotted .default requested ids} {id | id ∈ units.map (·.id)} := by
  intro requested units
  have names : units.map (·.id.name) = ["tests", "lint", "format"] := by decide +kernel
  have length : units.length = 3 := by simpa using congrArg List.length names
  obtain ⟨ended, _, _, _, _, least⟩ := withDependencies_least_closure SampleGate.knotted_stable
    (SampleGate.knotted_stable.nodup_select ["python:tests"]) .default
  exact ⟨names, length ▸ ended, least⟩

end GateRunner.WorkingSet
