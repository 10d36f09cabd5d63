import GateRunner.Check.Behaviour
import GateRunner.Config.Document
import GateRunner.WorkingSet.Count

/-!
# Checks that are switched off

A check is off when the configuration says so, and when it depends on a check that is off. `splitSwitched` first lists
what the configuration switches off and then goes over the working set again and again, each pass adding the checks
with a dependency that is off by then, until a pass adds nothing. A pass adds only checks of the working set that were
on before it, so there are no more passes than checks (`countOn_offByDependency_lt`).
-/

namespace GateRunner.WorkingSet

/-- A check that is off, and why. -/
structure SwitchedOff where
  id : CheckId
  reason : String
deriving DecidableEq, Repr

/-- The ids of checks that are off. -/
def offIds (off : List SwitchedOff) : List CheckId := off.map (·.id)

/-- The checks that the configuration switches off, in their order. -/
def offByConfig (config : Configuration) (units : List BoundCheck) : List SwitchedOff :=
  units.filterMap fun i =>
    match config.switchOf i.id with
    | .on => none
    | .off reason => some ⟨i.id, reason⟩

/-- The reason of a check whose dependency is off. -/
def dependencyReason (dependency : CheckId) : String := "dependency " ++ dependency.written ++ " is disabled"

/-- One pass over the checks: those that are on and have a dependency that is off, which puts them off for the checks
after them. The reason names the first such dependency. -/
def offByDependency (off : List CheckId) : List BoundCheck → List SwitchedOff
  | [] => []
  | i :: rest =>
    if i.id ∈ off then offByDependency off rest
    else
      match i.dependencies.find? (· ∈ off) with
      | some dependency => ⟨i.id, dependencyReason dependency⟩ :: offByDependency (i.id :: off) rest
      | none => offByDependency off rest

/-- How many checks are on. -/
def countOn (off : List CheckId) (units : List BoundCheck) : Nat := units.countP (fun i => i.id ∉ off)

theorem mem_offByDependency {off : List CheckId} {units : List BoundCheck} {d : SwitchedOff}
    (h : d ∈ offByDependency off units) : d.id ∉ off ∧ ∃ i ∈ units, i.id = d.id := by
  induction units generalizing off with
  | nil => cases h
  | cons i rest ih =>
    unfold offByDependency at h
    split at h
    · obtain ⟨h1, j, hj, hid⟩ := ih h
      exact ⟨h1, j, List.mem_cons_of_mem _ hj, hid⟩
    · rename_i hi
      split at h
      · rcases List.mem_cons.mp h with rfl | h
        · exact ⟨hi, i, List.mem_cons_self, rfl⟩
        · obtain ⟨h1, j, hj, hid⟩ := ih h
          exact ⟨fun hmem => h1 (List.mem_cons_of_mem _ hmem), j, List.mem_cons_of_mem _ hj, hid⟩
      · obtain ⟨h1, j, hj, hid⟩ := ih h
        exact ⟨h1, j, List.mem_cons_of_mem _ hj, hid⟩

/-- A pass that adds a check leaves fewer on. -/
theorem countOn_offByDependency_lt {off : List CheckId} {units : List BoundCheck}
    (h : offByDependency off units ≠ []) :
    countOn (off ++ offIds (offByDependency off units)) units < countOn off units := by
  obtain ⟨d, hd⟩ := List.exists_mem_of_ne_nil _ h
  obtain ⟨hoff, i, hi, hid⟩ := mem_offByDependency hd
  refine countP_lt_of_mem hi (fun j hj => ?_) (by simpa [hid] using hoff) ?_
  · simp only [decide_eq_true_eq, List.mem_append, not_or] at hj ⊢
    exact hj.1
  · have mem : i.id ∈ offIds (offByDependency off units) := List.mem_map.mpr ⟨d, hd, hid.symm⟩
    simp [mem]

/-- Passes over the checks until one adds nothing. -/
def offAll (units : List BoundCheck) (off : List SwitchedOff) : List SwitchedOff :=
  let new := offByDependency (offIds off) units
  if _h : new = [] then off else offAll units (off ++ new)
termination_by countOn (offIds off) units
decreasing_by
  rw [show offIds (off ++ new) = offIds off ++ offIds new from List.map_append]
  exact countOn_offByDependency_lt _h

/-- The checks that are on, in their order, and those that are off. -/
def splitSwitched (config : Configuration) (units : List BoundCheck) : List BoundCheck × List SwitchedOff :=
  let off := offAll units (offByConfig config units)
  (units.filter (fun i => i.id ∉ offIds off), off)

end GateRunner.WorkingSet
