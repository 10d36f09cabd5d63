import GateRunner.Registry
import GateRunner.WorkingSet.Count

/-!
# Dependencies that come along

The checks that were asked for bring along what they depend on, and what that depends on in turn. `withDependencies`
goes through a queue: the dependencies of each check that nobody has met yet are bound and put at the end, both of the
working set and of the queue. A dependency that is not registered is met, and left.

The queue runs dry because a check enters it only when its id is met for the first time and is registered: what is
registered and not yet met, and what waits in the queue, grow less together with every check taken out (`pull_unmet`).
-/

namespace GateRunner.WorkingSet

/-- How many registrations have an id that is not among the met ones. -/
def unmet (g : Registry) (met : List CheckId) : Nat := g.entries.countP (fun r => r.id ∉ met)

/-- The met ids after a list of dependencies, and the checks that it brings along. -/
def pull (g : Registry) (config : Configuration) (met : List CheckId) :
    List CheckId → List CheckId × List BoundCheck
  | [] => (met, [])
  | dep :: rest =>
    if dep ∈ met then pull g config met rest
    else
      let (met, more) := pull g config (dep :: met) rest
      (met, (g.bind? config dep).toList ++ more)

theorem unmet_cons_le (g : Registry) (met : List CheckId) (dep : CheckId) : unmet g (dep :: met) ≤ unmet g met := by
  refine List.countP_mono_left fun r _ h => ?_
  simp only [decide_eq_true_eq, List.mem_cons, not_or] at h ⊢
  exact h.2

theorem unmet_cons_lt {g : Registry} {met : List CheckId} {dep : CheckId} {r : Registration} (hr : r ∈ g.entries)
    (hid : r.id = dep) (hmet : dep ∉ met) : unmet g (dep :: met) < unmet g met := by
  refine countP_lt_of_mem hr (fun e h => ?_) (by simp [hid, hmet]) (by simp [hid])
  simp only [decide_eq_true_eq, List.mem_cons, not_or] at h ⊢
  exact h.2

/-- What a list of dependencies brings along is paid for by registrations that have been met. -/
theorem pull_unmet (g : Registry) (config : Configuration) (met deps : List CheckId) :
    unmet g (pull g config met deps).1 + (pull g config met deps).2.length ≤ unmet g met := by
  induction deps generalizing met with
  | nil => simp [pull]
  | cons dep rest ih =>
    by_cases h : dep ∈ met
    · simpa [pull, h] using ih met
    · have step := ih (dep :: met)
      simp only [pull, h, if_false, List.length_append]
      cases found : g.find? dep with
      | none =>
        have le := unmet_cons_le g met dep
        simp only [Registry.bind?, found, Option.map_none, Option.toList_none, List.length_nil]
        omega
      | some r =>
        have hr : r ∈ g.entries := List.mem_of_find?_eq_some found
        have hid : r.id = dep := by simpa using List.find?_some found
        have lt := unmet_cons_lt hr hid h
        simp only [Registry.bind?, found, Option.map_some, Option.toList_some, List.length_singleton]
        omega

/-- The checks that a queue brings along, in the order in which they are met. -/
def bringAlong (g : Registry) (config : Configuration) (met : List CheckId) :
    List BoundCheck → List BoundCheck
  | [] => []
  | i :: queue =>
    let found := pull g config met i.dependencies
    found.2 ++ bringAlong g config found.1 (queue ++ found.2)
termination_by queue => unmet g met + queue.length
decreasing_by
  have := pull_unmet g config met i.dependencies
  simp only [List.length_append, List.length_cons]
  omega

/-- The working set of the requested checks: they themselves, and after them all they depend on. -/
def withDependencies (g : Registry) (config : Configuration) (requested : List BoundCheck) : List BoundCheck :=
  requested ++ bringAlong g config (requested.map (·.id)) requested

end GateRunner.WorkingSet
