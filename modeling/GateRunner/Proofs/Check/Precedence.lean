import GateRunner.Check.Id
import Mathlib.Data.List.Nodup

/-!
# What stands before what

In a list of checks one stands before another when its first place comes first. Where no check stands twice this is the
order of the list: what holds of all pairs of a list, the earlier one first, holds of any two of which one stands before
the other (`Precedes.rel`), and part of a list has the order of the whole (`mem_of_precedes`).
-/

namespace GateRunner

/-- One check stands before another in an order. -/
def Precedes (order : List CheckId) (id other : CheckId) : Prop := order.idxOf id < order.idxOf other

instance (order : List CheckId) (id other : CheckId) : Decidable (Precedes order id other) := Nat.decLt _ _

theorem Precedes.mem {order : List CheckId} {id other : CheckId} (before : Precedes order id other) : id ∈ order :=
  List.idxOf_lt_length_iff.mp (Nat.lt_of_lt_of_le before List.idxOf_le_length)

theorem Precedes.asymm {order : List CheckId} {id other : CheckId} (before : Precedes order id other) :
    ¬ Precedes order other id := Nat.lt_asymm before

/-- Of two checks of a list one stands before the other. -/
theorem precedes_or_precedes {order : List CheckId} {id other : CheckId} (mem : id ∈ order) (apart : id ≠ other) :
    Precedes order id other ∨ Precedes order other id :=
  Nat.lt_or_gt_of_ne fun same => apart ((List.idxOf_inj mem).mp same)

/-- What holds of all pairs of a list holds of two checks of which one stands before the other. -/
theorem Precedes.rel {order : List CheckId} {id other : CheckId} {R : CheckId → CheckId → Prop}
    (before : Precedes order id other) (pairs : order.Pairwise R) (mem : other ∈ order) : R id other := by
  have rel := List.pairwise_iff_getElem.mp pairs _ _ (List.idxOf_lt_length_iff.mpr before.mem)
    (List.idxOf_lt_length_iff.mpr mem) before
  rwa [List.getElem_idxOf, List.getElem_idxOf] at rel

theorem pairwise_precedes {order : List CheckId} (distinct : order.Nodup) : order.Pairwise (Precedes order) := by
  refine List.pairwise_iff_getElem.mpr fun i j hi hj less => ?_
  rw [Precedes, distinct.idxOf_getElem, distinct.idxOf_getElem]
  exact less

/-- In a list that keeps the order, what stands before one of its checks comes before it. -/
theorem mem_of_precedes {order early late : List CheckId} {id other : CheckId} (distinct : order.Nodup)
    (keeps : (early ++ other :: late).Sublist order) (mem : id ∈ early ++ other :: late)
    (before : Precedes order id other) : id ∈ early := by
  have pairs := List.pairwise_append.mp ((pairwise_precedes distinct).sublist keeps)
  rcases List.mem_append.mp mem with mem | mem
  · exact mem
  · rcases List.mem_cons.mp mem with rfl | mem
    · exact absurd before (Nat.lt_irrefl _)
    · exact absurd before (Nat.lt_asymm (List.rel_of_pairwise_cons pairs.2.1 mem))

end GateRunner
