import GateRunner.Proofs.Config.Switches
import GateRunner.Proofs.WorkingSet.Dependence
import GateRunner.Proofs.WorkingSet.Grounded
import GateRunner.WorkingSet.Switched

/-!
# What is switched off

A check is off when the configuration says so, and when it depends on a check that is off; nothing else is. The passes
over the working set add one check after the other, each for a dependency that is off by then (`exists_later`). They end
with a list that is closed under this rule (`offAll_closed`) and holds no more than the rule asks for (`offAll_least`).
Repetitions and circles in the set make no difference.

**The law** (`mem_offIds_iff`): a check is off exactly when it rests, by a chain of dependencies within the working set,
on a check that the configuration switches off.
-/

namespace GateRunner.WorkingSet

/-- A check of a working set is another one or depends on it, directly or through others. -/
def RestsOn (units : List BoundCheck) : CheckId → CheckId → Prop := Relation.ReflTransGen (DependsOn units)

variable {config : Configuration} {units : List BoundCheck}

/-- What rests on a check of the set is in the set. -/
theorem RestsOn.mem {id root : CheckId} (rests : RestsOn units id root) (present : root ∈ units.map (·.id)) :
    id ∈ units.map (·.id) := by
  rcases rests.cases_head with rfl | ⟨d, ⟨⟨i, hi, same, _⟩, _⟩, _⟩
  · exact present
  · exact List.mem_map.mpr ⟨i, hi, same⟩

/-- What a check of the set rests on is in the set. -/
theorem RestsOn.target_mem {id root : CheckId} (rests : RestsOn units id root) (present : id ∈ units.map (·.id)) :
    root ∈ units.map (·.id) := by
  rcases rests.cases_tail with rfl | ⟨_, _, dep⟩
  · exact present
  · exact List.mem_map.mpr dep.2

/-! ## One pass -/

@[simp] theorem offIds_append (off later : List SwitchedOff) : offIds (off ++ later) = offIds off ++ offIds later :=
  List.map_append

/-- The checks that the configuration switches off, in the order of the working set. -/
theorem offIds_offByConfig (config : Configuration) (units : List BoundCheck) :
    offIds (offByConfig config units) = (units.map (·.id)).filter fun id => config.switchOf id ≠ .on := by
  induction units with
  | nil => rfl
  | cons i rest ih =>
    rw [offByConfig, List.filterMap_cons, List.map_cons, List.filter_cons, ← ih]
    cases switch : config.switchOf i.id with
    | on => simp [offByConfig]
    | off reason => simp [offByConfig, offIds]

theorem mem_offIds_offByConfig {id : CheckId} :
    id ∈ offIds (offByConfig config units) ↔ id ∈ units.map (·.id) ∧ config.SwitchesOff id := by
  rw [offIds_offByConfig, List.mem_filter, decide_eq_true_eq, Configuration.switchOf_ne_on_iff]

/-- A check of the set has a dependency that is off, and that is the reason given for it. -/
def OffFor (units : List BoundCheck) (off : List SwitchedOff) (d : SwitchedOff) : Prop :=
  ∃ i ∈ units, i.id = d.id ∧ ∃ dependency ∈ i.dependencies, dependency ∈ offIds off ∧ d.reason = dependencyReason dependency

/-- A pass adds a check for a dependency that was off before the pass, or that the pass added earlier. -/
theorem grounded_offByDependency {checks : List BoundCheck} (within : checks ⊆ units) {ids : List CheckId}
    {off : List SwitchedOff} (known : ids ⊆ offIds off) : Grounded (OffFor units) off (offByDependency ids checks) := by
  induction checks generalizing ids off with
  | nil => exact grounded_nil
  | cons i rest ih =>
    obtain ⟨hi, later⟩ := List.cons_subset.mp within
    unfold offByDependency
    split
    · exact ih later known
    · split
      · rename_i dependency found
        have gone : dependency ∈ ids := by simpa only [decide_eq_true_eq] using List.find?_some found
        refine grounded_cons.mpr ⟨⟨i, hi, rfl, dependency, List.mem_of_find?_eq_some found, known gone, rfl⟩, ih later ?_⟩
        intro id hid
        rw [offIds_append]
        rcases List.mem_cons.mp hid with rfl | hid
        · exact List.mem_append_right _ (List.mem_singleton_self _)
        · exact List.mem_append_left _ (known hid)
      · exact ih later known

/-- A pass that adds nothing finds no check that is on and has a dependency that is off. -/
theorem closed_of_offByDependency_eq_nil {off : List CheckId} (none : offByDependency off units = []) :
    ∀ i ∈ units, ∀ d ∈ i.dependencies, d ∈ off → i.id ∈ off := by
  induction units with
  | nil => exact fun _ hi => absurd hi List.not_mem_nil
  | cons i rest ih =>
    unfold offByDependency at none
    intro j hj d hd gone
    split at none
    · rename_i known
      rcases List.mem_cons.mp hj with rfl | hj
      · exact known
      · exact ih none j hj d hd gone
    · split at none
      · cases none
      · rename_i free
        rcases List.mem_cons.mp hj with rfl | hj
        · exact absurd (decide_eq_true gone) (List.find?_eq_none.mp free d hd)
        · exact ih none j hj d hd gone

/-! ## All passes -/

/-- The passes only add, at the end, and each check for a dependency that is off by then. -/
theorem exists_later (units : List BoundCheck) (off : List SwitchedOff) :
    ∃ later, offAll units off = off ++ later ∧ Grounded (OffFor units) off later := by
  fun_induction offAll units off with
  | case1 off => exact ⟨[], (List.append_nil _).symm, grounded_nil⟩
  | case2 off new _ ih =>
    obtain ⟨later, e, grounded⟩ := ih
    refine ⟨new ++ later, by rw [e, List.append_assoc], grounded_append.mpr ⟨?_, grounded⟩⟩
    exact grounded_offByDependency (List.Subset.refl _) (List.Subset.refl _)

/-- After the passes, whatever has a dependency that is off is off. -/
theorem offAll_closed (units : List BoundCheck) (off : List SwitchedOff) :
    ∀ i ∈ units, ∀ d ∈ i.dependencies, d ∈ offIds (offAll units off) → i.id ∈ offIds (offAll units off) := by
  fun_induction offAll units off with
  | case1 off new none => exact closed_of_offByDependency_eq_nil none
  | case2 off new _ ih => exact ih

/-- The passes put off no more than that asks for. -/
theorem offAll_least {P : CheckId → Prop} (spreads : ∀ i ∈ units, ∀ d ∈ i.dependencies, P d → P i.id)
    (off : List SwitchedOff) (known : ∀ id ∈ offIds off, P id) : ∀ id ∈ offIds (offAll units off), P id := by
  obtain ⟨later, e, grounded⟩ := exists_later units off
  have added : ∀ d ∈ later, P d.id := by
    refine grounded.forall (fun d hd => known d.id (List.mem_map.mpr ⟨d, hd, rfl⟩)) ?_
    rintro before _ held d _ ⟨i, hi, own, dependency, declared, gone, _⟩
    obtain ⟨d', hd', rfl⟩ := List.mem_map.mp gone
    exact own ▸ spreads i hi d'.id declared (held d' hd')
  rw [e, offIds_append]
  intro id hid
  rcases List.mem_append.mp hid with hid | hid
  · exact known id hid
  · obtain ⟨d, hd, rfl⟩ := List.mem_map.mp hid
    exact added d hd

/-- **A check is off exactly when it rests on one that the configuration switches off.** -/
theorem mem_offIds_iff {id : CheckId} : id ∈ offIds (splitSwitched config units).2 ↔
    ∃ root ∈ units.map (·.id), config.SwitchesOff root ∧ RestsOn units id root := by
  constructor
  · refine offAll_least (P := fun id => ∃ root ∈ units.map (·.id), config.SwitchesOff root ∧ RestsOn units id root)
      ?_ _ ?_ id
    · rintro i hi d hd ⟨root, present, off, rests⟩
      exact ⟨root, present, off, .head ⟨⟨i, hi, rfl, hd⟩, List.mem_map.mp (rests.mem present)⟩ rests⟩
    · intro id hid
      obtain ⟨present, off⟩ := mem_offIds_offByConfig.mp hid
      exact ⟨id, present, off, .refl⟩
  · rintro ⟨root, present, off, rests⟩
    obtain ⟨later, e, _⟩ := exists_later units (offByConfig config units)
    have start : root ∈ offIds (splitSwitched config units).2 := by
      rw [splitSwitched, e, offIds_append]
      exact List.mem_append_left _ (mem_offIds_offByConfig.mpr ⟨present, off⟩)
    -- back along the chain, every check has a dependency that is off
    induction rests using Relation.ReflTransGen.head_induction_on with
    | refl => exact start
    | head step _ ih =>
      obtain ⟨⟨i, hi, rfl, declared⟩, _⟩ := step
      exact offAll_closed _ _ i hi _ declared ih

end GateRunner.WorkingSet
