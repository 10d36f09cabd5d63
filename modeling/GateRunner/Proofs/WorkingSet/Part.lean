import GateRunner.Proofs.Graph.Expected
import GateRunner.Proofs.WorkingSet.Switching
import GateRunner.WorkingSet.Applicable
import Mathlib.Data.List.Find

/-!
# Closed parts of a working set

Some checks of a working set are a closed part of it when they have with them all of the set that they depend on. What
can be said of a check by looking at what it depends on, and at what that depends on, comes out the same in the part as
in the whole: its dependencies, the checks that it rests on, whether it is off (`mem_offIds_iff_whole`). Leaving checks
out by a property of their own leaves a closed part closed (`filter`).

**The law** (`expected_eq_whole`): a check of a closed part has the same result to expect in the part as in the whole.
-/

namespace GateRunner.WorkingSet

/-- Some checks of a working set, and with them all of the set that they depend on. -/
structure ClosedPart (part whole : List BoundCheck) : Prop where
  subset : part ⊆ whole
  closed : ∀ i ∈ part, ∀ d ∈ i.dependencies, d ∈ whole.map (·.id) → d ∈ part.map (·.id)

/-- The same checks in another order are a closed part. -/
theorem ClosedPart.of_perm {part whole : List BoundCheck} (relisted : part.Perm whole) : ClosedPart part whole where
  subset := relisted.subset
  closed _ _ _ _ present := (relisted.map _).symm.subset present

namespace ClosedPart

variable {part whole : List BoundCheck} (h : ClosedPart part whole)
include h

theorem dependsOn_whole {id d : CheckId} : DependsOn part id d → DependsOn whole id d := by
  rintro ⟨⟨i, hi, same, declared⟩, j, hj, same'⟩
  exact ⟨⟨i, h.subset hi, same, declared⟩, j, h.subset hj, same'⟩

/-- A part of a set without a circle has no circle. -/
theorem not_hasCircle (none : ¬ HasCircle whole) : ¬ HasCircle part := by
  rintro ⟨id, far⟩
  exact none ⟨id, Relation.TransGen.mono (fun _ _ => h.dependsOn_whole) id id far⟩

variable (distinct : (whole.map (·.id)).Nodup)
include distinct

/-- Leaving checks out by a property of their own leaves a closed part closed. -/
theorem filter (p : BoundCheck → Bool) : ClosedPart (part.filter p) (whole.filter p) where
  subset := List.filter_subset p h.subset
  closed := by
    intro i hi d hd present
    obtain ⟨j, hj, rfl⟩ := List.mem_map.mp present
    obtain ⟨hj, kept⟩ := List.mem_filter.mp hj
    obtain ⟨k, hk, same⟩ := List.mem_map.mp
      (h.closed i (List.mem_filter.mp hi).1 _ hd (List.mem_map.mpr ⟨j, hj, rfl⟩))
    have same' : k = j := List.inj_on_of_nodup_map distinct (h.subset hk) hj same
    exact List.mem_map.mpr ⟨j, List.mem_filter.mpr ⟨same' ▸ hk, kept⟩, rfl⟩

/-- A check of the part depends in the part on what it depends on in the whole. -/
theorem dependsOn_part {i : BoundCheck} (hi : i ∈ part) {d : CheckId} (dep : DependsOn whole i.id d) :
    DependsOn part i.id d := by
  obtain ⟨⟨j, hj, same, declared⟩, present⟩ := dep
  obtain rfl : j = i := List.inj_on_of_nodup_map distinct hj (h.subset hi) same
  exact ⟨⟨j, hi, rfl, declared⟩, List.mem_map.mp (h.closed j hi d declared (List.mem_map.mpr present))⟩

/-- A check of the part rests in the part on what it rests on in the whole. -/
theorem restsOn_part {id root : CheckId} (hid : id ∈ part.map (·.id)) (rests : RestsOn whole id root) :
    RestsOn part id root ∧ root ∈ part.map (·.id) := by
  induction rests using Relation.ReflTransGen.head_induction_on with
  | refl => exact ⟨.refl, hid⟩
  | head step _ ih =>
    obtain ⟨i, hi, rfl⟩ := List.mem_map.mp hid
    have step' := h.dependsOn_part distinct hi step
    obtain ⟨rests, present⟩ := ih (List.mem_map.mpr step'.2)
    exact ⟨.head step' rests, present⟩

/-- A check of the part is off in the part exactly when it is off in the whole. -/
theorem mem_offIds_iff_whole (config : Configuration) {id : CheckId} (hid : id ∈ part.map (·.id)) :
    id ∈ offIds (splitSwitched config part).2 ↔ id ∈ offIds (splitSwitched config whole).2 := by
  rw [mem_offIds_iff, mem_offIds_iff]
  constructor
  · rintro ⟨root, present, off, rests⟩
    exact ⟨root, List.map_subset _ h.subset present, off,
      Relation.ReflTransGen.mono (fun _ _ => h.dependsOn_whole) id root rests⟩
  · rintro ⟨root, _, off, rests⟩
    obtain ⟨rests, present⟩ := h.restsOn_part distinct hid rests
    exact ⟨root, present, off, rests⟩

/-- What is on in a closed part is a closed part of what is on in the whole. -/
theorem splitSwitched (config : Configuration) :
    ClosedPart (splitSwitched config part).1 (splitSwitched config whole).1 := by
  have same : (WorkingSet.splitSwitched config part).1 =
      part.filter fun i => i.id ∉ offIds (WorkingSet.splitSwitched config whole).2 :=
    List.filter_congr fun i hi => by
      simp only [← h.mem_offIds_iff_whole distinct config (List.mem_map.mpr ⟨i, hi, rfl⟩)]
      rfl
  rw [same]
  exact h.filter distinct _

/-! ## The graph of a part -/

variable (distinct' : (part.map (·.id)).Nodup)
include distinct'

/-- A check of the part has the same dependencies in both graphs. -/
theorem dependencies_eq_whole {i : BoundCheck} (hi : i ∈ part) :
    (DependencyGraph.ofUnits part).dependencies i.id = (DependencyGraph.ofUnits whole).dependencies i.id := by
  have same : ∀ d ∈ i.dependencies, decide (d ∈ part.map (·.id)) = decide (d ∈ whole.map (·.id)) := by
    intro d hd
    exact decide_eq_decide.mpr ⟨fun present => List.map_subset _ h.subset present, h.closed i hi d hd⟩
  rw [DependencyGraph.dependencies_ofUnits distinct' hi, DependencyGraph.dependencies_ofUnits distinct (h.subset hi),
    DependencyGraph.dependenciesAmong, DependencyGraph.dependenciesAmong, List.filter_congr same]

/-- **A check of the part has the same result to expect as in the whole.** -/
theorem expected_eq_whole {acyclic' : (DependencyGraph.ofUnits part).Acyclic}
    {acyclic : (DependencyGraph.ofUnits whole).Acyclic} (outcome : CheckId → CheckResult) {i : BoundCheck}
    (hi : i ∈ part) : (DependencyGraph.ofUnits part).expected acyclic' outcome i.id =
      (DependencyGraph.ofUnits whole).expected acyclic outcome i.id := by
  -- by induction along the dependencies, which stay in the part
  suffices along : ∀ id ∈ part.map (·.id), (DependencyGraph.ofUnits part).expected acyclic' outcome id =
      (DependencyGraph.ofUnits whole).expected acyclic outcome id from along i.id (List.mem_map.mpr ⟨i, hi, rfl⟩)
  intro id
  induction id using acyclic'.wellFounded.induction with
  | _ id ih =>
    intro hid
    obtain ⟨i, hi, rfl⟩ := List.mem_map.mp hid
    have same : ∀ d ∈ (DependencyGraph.ofUnits part).dependencies i.id,
        (!((DependencyGraph.ofUnits part).expected acyclic' outcome d).isPassed) =
          !((DependencyGraph.ofUnits whole).expected acyclic outcome d).isPassed := by
      intro d hd
      have present : d ∈ part.map (·.id) :=
        DependencyGraph.order_ofUnits part ▸ (DependencyGraph.proper_ofUnits distinct').mem_order_of_dependsOn hd
      rw [ih d hd present]
    rw [DependencyGraph.expected_eq, DependencyGraph.expected_eq, List.find?_congr same,
      h.dependencies_eq_whole distinct distinct' hi]

end ClosedPart

end GateRunner.WorkingSet
