/-!
# Counting fewer

A count goes down when what is counted is counted under a narrower rule that leaves out at least one item. The loops
over a working set end by it.
-/

namespace GateRunner.WorkingSet

/-- Under a narrower rule that leaves out an item of the list, the count is less. -/
theorem countP_lt_of_mem {α : Type} {p q : α → Bool} {items : List α} {a : α} (ha : a ∈ items)
    (narrower : ∀ b, p b = true → q b = true) (hq : q a = true) (hp : ¬ p a = true) :
    items.countP p < items.countP q := by
  induction items with
  | nil => cases ha
  | cons b rest ih =>
    have mono : rest.countP p ≤ rest.countP q := List.countP_mono_left fun c _ => narrower c
    rcases List.mem_cons.mp ha with rfl | ha
    · rw [List.countP_cons_of_neg hp, List.countP_cons_of_pos hq]
      omega
    · have step := ih ha
      by_cases hb : p b = true
      · rw [List.countP_cons_of_pos hb, List.countP_cons_of_pos (narrower b hb)]
        omega
      · rw [List.countP_cons_of_neg hb]
        rw [List.countP_cons]
        omega

end GateRunner.WorkingSet
