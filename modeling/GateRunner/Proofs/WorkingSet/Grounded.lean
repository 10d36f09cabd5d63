/-!
# Lists in which each item rests on what stands before it

The loops over a working set add one item after the other, each for a reason among those that are there already.
`Grounded` says so of a list: every item has the support of those that stand before it, or that were there when the list
began. It is told item by item (`grounded_cons`) and part by part (`grounded_append`).

**The law** (`Grounded.forall`): what holds of all that was there, and spreads from the support of an item to the item,
holds of every item.
-/

namespace GateRunner

variable {α : Type} {supports : List α → α → Prop} {seen items : List α}

/-- Every item of a list has the support of those before it, which come after those that were seen earlier. -/
def Grounded (supports : List α → α → Prop) (seen items : List α) : Prop :=
  ∀ before a after, items = before ++ a :: after → supports (seen ++ before) a

theorem grounded_nil : Grounded supports seen [] := by
  intro before a after split
  simp at split

theorem grounded_cons {a : α} :
    Grounded supports seen (a :: items) ↔ supports seen a ∧ Grounded supports (seen ++ [a]) items := by
  constructor
  · intro h
    refine ⟨by simpa using h [] a items rfl, fun before b after split => ?_⟩
    simpa using h (a :: before) b after (by rw [split, List.cons_append])
  · rintro ⟨head, rest⟩ before b after split
    cases before with
    | nil =>
      obtain ⟨rfl, rfl⟩ := List.cons.inj split
      simpa using head
    | cons first before =>
      obtain ⟨rfl, rfl⟩ := List.cons.inj split
      simpa using rest before b after rfl

theorem grounded_append {first second : List α} : Grounded supports seen (first ++ second) ↔
    Grounded supports seen first ∧ Grounded supports (seen ++ first) second := by
  induction first generalizing seen with
  | nil => simp [grounded_nil]
  | cons a rest ih => simp [grounded_cons, ih, and_assoc]

/-- Items that all have the support of what was there first. -/
theorem grounded_of_forall (more : ∀ before after a, before ⊆ after → supports before a → supports after a)
    (h : ∀ a ∈ items, supports seen a) : Grounded supports seen items := by
  rintro before a after rfl
  exact more seen (seen ++ before) a (List.subset_append_left _ _) (h a (by simp))

theorem Grounded.mono (more : ∀ before after a, before ⊆ after → supports before a → supports after a)
    {seen' : List α} (sub : seen ⊆ seen') (h : Grounded supports seen items) : Grounded supports seen' items := by
  intro before a after split
  refine more (seen ++ before) (seen' ++ before) a (fun b hb => ?_) (h before a after split)
  exact List.mem_append.mpr ((List.mem_append.mp hb).imp_left fun hb => sub hb)

/-- **What holds at first and spreads from support to item holds of every item.** -/
theorem Grounded.forall {P : α → Prop} (h : Grounded supports seen items) (start : ∀ a ∈ seen, P a)
    (spreads : ∀ before ⊆ seen ++ items, (∀ b ∈ before, P b) → ∀ a ∈ items, supports before a → P a) :
    ∀ a ∈ items, P a := by
  induction items generalizing seen with
  | nil => simp
  | cons first rest ih =>
    obtain ⟨support, later⟩ := grounded_cons.mp h
    have here : P first := spreads seen (List.subset_append_left _ _) start first List.mem_cons_self support
    have onward : ∀ a ∈ rest, P a := by
      refine ih later (fun a ha => ?_) fun before sub held a ha => ?_
      · rcases List.mem_append.mp ha with ha | ha
        · exact start a ha
        · exact List.mem_singleton.mp ha ▸ here
      · exact spreads before (by simpa using sub) held a (List.mem_cons_of_mem _ ha)
    intro a ha
    rcases List.mem_cons.mp ha with rfl | ha
    · exact here
    · exact onward a ha

end GateRunner
