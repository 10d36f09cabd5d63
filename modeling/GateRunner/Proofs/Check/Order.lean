import GateRunner.Check.Id
import Mathlib.Data.List.Nodup
import Mathlib.Data.String.Basic

/-!
# The order of ids

Ids are sorted by category and then by name. This is a total order, so ids of which none is repeated stand in strict order
when they are sorted (`CheckId.pairwise_before_sort`), in the same whatever order they came in (`CheckId.sort_congr`).
-/

namespace GateRunner.CheckId

/-- The order of ids, equal ones left out: by category, then by name. -/
def Before (a b : CheckId) : Prop := a.category < b.category ∨ (a.category = b.category ∧ a.name < b.name)

variable {a b c : CheckId}

theorem le_iff : a.le b = true ↔ a.Before b ∨ a = b := by
  obtain ⟨category, name⟩ := a
  obtain ⟨category', name'⟩ := b
  simp only [le, Before, Bool.or_eq_true, Bool.and_eq_true, decide_eq_true_eq, CheckId.mk.injEq, le_iff_lt_or_eq, or_assoc,
    and_or_left]

theorem Before.trans (first : a.Before b) (second : b.Before c) : a.Before c := by
  obtain category | ⟨same, name⟩ := first
  · obtain category' | ⟨same', -⟩ := second
    · exact .inl (category.trans category')
    · exact .inl (same' ▸ category)
  · obtain category' | ⟨same', name'⟩ := second
    · exact .inl (same ▸ category')
    · exact .inr ⟨same.trans same', name.trans name'⟩

theorem before_or_eq_or_before (a b : CheckId) : a.Before b ∨ a = b ∨ b.Before a := by
  obtain category | category | category := lt_trichotomy a.category b.category
  · exact .inl (.inl category)
  · obtain name | name | name := lt_trichotomy a.name b.name
    · exact .inl (.inr ⟨category, name⟩)
    · exact .inr (.inl (CheckId.mk.injEq .. ▸ ⟨category, name⟩))
    · exact .inr (.inr (.inr ⟨category.symm, name⟩))
  · exact .inr (.inr (.inl category))

theorem Before.irrefl : ¬ a.Before a := fun before =>
  before.elim (lt_irrefl _) fun ⟨_, name⟩ => lt_irrefl _ name

theorem pairwise_sort (ids : List CheckId) : (sort ids).Pairwise (fun a b => a.le b = true) := by
  refine List.pairwise_mergeSort (fun a b c first second => ?_) (fun a b => ?_) ids
  · obtain before | rfl := le_iff.mp first
    · obtain before' | rfl := le_iff.mp second
      · exact le_iff.mpr (.inl (before.trans before'))
      · exact first
    · exact second
  · simp only [Bool.or_eq_true, le_iff]
    obtain before | same | before := before_or_eq_or_before a b
    · exact .inl (.inl before)
    · exact .inl (.inr same)
    · exact .inr (.inl before)

/-- Ids of which none is repeated stand in strict order when they are sorted. -/
theorem pairwise_before_sort {ids : List CheckId} (distinct : ids.Nodup) : (sort ids).Pairwise Before := by
  have apart : (sort ids).Nodup := (List.mergeSort_perm ids le).nodup_iff.mpr distinct
  exact ((pairwise_sort ids).and apart).imp fun ⟨order, other⟩ => (le_iff.mp order).resolve_right other

theorem mem_sort {ids : List CheckId} : a ∈ sort ids ↔ a ∈ ids := (List.mergeSort_perm ids le).mem_iff

/-- The same ids are sorted into the same list. -/
theorem sort_congr {ids others : List CheckId} (distinct : ids.Nodup) (distinct' : others.Nodup)
    (same : ∀ id, id ∈ ids ↔ id ∈ others) : sort ids = sort others := by
  have perm : (sort ids).Perm (sort others) :=
    (List.mergeSort_perm ids le).trans
      (((List.perm_ext_iff_of_nodup distinct distinct').mpr same).trans (List.mergeSort_perm others le).symm)
  exact perm.eq_of_pairwise (fun _ _ _ _ before after => absurd (before.trans after) Before.irrefl)
    (pairwise_before_sort distinct) (pairwise_before_sort distinct')

end GateRunner.CheckId
