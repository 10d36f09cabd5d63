import GateRunner.Proofs.Registry.Stable
import GateRunner.WorkingSet.Applicable
import GateRunner.WorkingSet.Closure
import GateRunner.WorkingSet.Switched

/-!
# Working sets without repetition

Over a registry whose makers keep to their ids, no check comes into a working set twice: the selection binds each id
once, and what comes along is bound only when its id is met for the first time (`bringAlong_distinct`).

**The law** (`nodup_scheduled`): the checks that a run schedules are distinct, whatever names it was asked for, and so
are those it reports on (`nodup_switchedOn`).
-/

namespace GateRunner

variable {g : Registry} {config : Configuration}

namespace WorkingSet

/-- What a list of dependencies brings along is distinct and new, and it is met afterwards. -/
theorem pull_distinct (stable : g.IdStable) (config : Configuration) (met deps : List CheckId) :
    met ⊆ (pull g config met deps).1 ∧ ((pull g config met deps).2.map (·.id)).Nodup ∧
      ∀ i ∈ (pull g config met deps).2, i.id ∉ met ∧ i.id ∈ (pull g config met deps).1 := by
  induction deps generalizing met with
  | nil => exact ⟨List.Subset.refl _, List.nodup_nil, fun i hi => absurd hi List.not_mem_nil⟩
  | cons dep rest ih =>
    rw [pull]
    by_cases known : dep ∈ met
    · rw [if_pos known]
      exact ih met
    · rw [if_neg known]
      obtain ⟨grows, distinct, new⟩ := ih (dep :: met)
      have grows' : met ⊆ (pull g config (dep :: met) rest).1 := fun id hid => grows (List.mem_cons_of_mem _ hid)
      have new' : ∀ i ∈ (pull g config (dep :: met) rest).2, i.id ∉ met ∧ i.id ∈ (pull g config (dep :: met) rest).1 :=
        fun i hi => ⟨fun mem => (new i hi).1 (List.mem_cons_of_mem _ mem), (new i hi).2⟩
      cases bound : g.bind? config dep with
      | none => exact ⟨grows', distinct, new'⟩
      | some i =>
        have hid : i.id = dep := stable.id_of_bind? bound
        refine ⟨grows', List.nodup_cons.mpr ⟨fun mem => ?_, distinct⟩, fun j hj => ?_⟩
        · obtain ⟨j, hj, same⟩ := List.mem_map.mp mem
          exact (new j hj).1 (List.mem_cons.mpr (.inl (Eq.trans same hid)))
        · rcases List.mem_cons.mp hj with rfl | hj
          · exact ⟨hid ▸ known, hid ▸ grows List.mem_cons_self⟩
          · exact new' j hj

/-- What a queue brings along is distinct and new. -/
theorem bringAlong_distinct (stable : g.IdStable) (config : Configuration) (met : List CheckId) (queue : List BoundCheck) :
    ((bringAlong g config met queue).map (·.id)).Nodup ∧ ∀ i ∈ bringAlong g config met queue, i.id ∉ met := by
  fun_induction bringAlong g config met queue with
  | case1 met => exact ⟨List.nodup_nil, fun i hi => absurd hi List.not_mem_nil⟩
  | case2 met i queue found ih =>
    obtain ⟨grows, distinct, new⟩ := pull_distinct stable config met i.dependencies
    obtain ⟨later, beyond⟩ := ih
    refine ⟨?_, fun j hj => ?_⟩
    · rw [List.map_append]
      refine List.nodup_append.mpr ⟨distinct, later, fun id hid other hother e => ?_⟩
      obtain ⟨j, hj, rfl⟩ := List.mem_map.mp hid
      obtain ⟨k, hk, rfl⟩ := List.mem_map.mp hother
      exact beyond k hk (e ▸ (new j hj).2)
    · rcases List.mem_append.mp hj with hj | hj
      · exact (new j hj).1
      · exact fun mem => beyond j hj (grows mem)

/-- Distinct checks stay distinct with all that comes along. -/
theorem nodup_withDependencies (stable : g.IdStable) {requested : List BoundCheck}
    (distinct : (requested.map (·.id)).Nodup) : ((withDependencies g config requested).map (·.id)).Nodup := by
  obtain ⟨later, beyond⟩ := bringAlong_distinct stable config (requested.map (·.id)) requested
  rw [withDependencies, List.map_append]
  refine List.nodup_append.mpr ⟨distinct, later, fun id hid other hother e => ?_⟩
  obtain ⟨j, hj, rfl⟩ := List.mem_map.mp hother
  exact beyond j hj (e ▸ hid)

/-- The checks that apply are distinct if all are. -/
theorem nodup_splitApplicable {units : List BoundCheck} (distinct : (units.map (·.id)).Nodup) (project : Project) :
    ((splitApplicable project units).1.map (·.id)).Nodup := distinct.sublist (List.filter_sublist.map _)

end WorkingSet

/-! ## The checks of a run -/

namespace Registry

/-- The checks that a run for some names reports on, in the order of its report: those asked for with all they depend
on, without those that are switched off. -/
def switchedOn (g : Registry) (config : Configuration) (names : List String) : List BoundCheck :=
  (WorkingSet.splitSwitched config (WorkingSet.withDependencies g config (g.select config names))).1

/-- The checks that a run for some names schedules: those it reports on that apply to the project. -/
def scheduled (g : Registry) (project : Project) (config : Configuration) (names : List String) : List BoundCheck :=
  (WorkingSet.splitApplicable project (g.switchedOn config names)).1

theorem mem_scheduled {project : Project} {names : List String} {i : BoundCheck} :
    i ∈ g.scheduled project config names ↔ i ∈ g.switchedOn config names ∧ i.check.applies project = true :=
  List.mem_filter

/-- The checks that a run reports on are distinct. -/
theorem IdStable.nodup_switchedOn (stable : g.IdStable) (names : List String) :
    ((g.switchedOn config names).map (·.id)).Nodup :=
  (WorkingSet.nodup_withDependencies stable (stable.nodup_select names)).sublist (List.filter_sublist.map _)

/-- **The checks that a run schedules are distinct.** -/
theorem IdStable.nodup_scheduled (stable : g.IdStable) (project : Project) (names : List String) :
    ((g.scheduled project config names).map (·.id)).Nodup :=
  WorkingSet.nodup_splitApplicable (stable.nodup_switchedOn names) project

end Registry

end GateRunner
