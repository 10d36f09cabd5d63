import GateRunner.Proofs.Check.Precedence
import Mathlib.Data.List.AList
import Mathlib.Data.List.Induction

/-!
# First occurrences

`CheckId.firstOccurrences` keeps of every id the place where it first stands. It loses no id, repeats none, keeps the
order (`pairwise_firstOccurrences`) and leaves a list without repetition as it is; other ids may be left out before or
after (`firstOccurrences_filter`). Each is carried through the loop by what has been seen so far.

Of items that go by an id each, a search gives the first with that id, which is the only one where no id stands twice
(`find?_of_nodup`). Likewise every entry of a table is found by its key where no key stands twice
(`lookup_eq_some_of_mem`).
-/

namespace GateRunner.CheckId

/-- One id looked at: it is kept if it is new. -/
def seeNext (seen : List CheckId) (id : CheckId) : List CheckId := if id ∈ seen then seen else seen ++ [id]

theorem firstOccurrences_eq_foldl (ids : List CheckId) : firstOccurrences ids = ids.foldl seeNext [] := rfl

theorem mem_seeNext {seen : List CheckId} {id other : CheckId} : other ∈ seeNext seen id ↔ other ∈ seen ∨ other = id := by
  unfold seeNext
  split
  · rename_i h
    exact ⟨.inl, fun h' => h'.elim (fun hs => hs) (fun e => e ▸ h)⟩
  · simp only [List.mem_append, List.mem_singleton]

theorem nodup_seeNext {seen : List CheckId} (h : seen.Nodup) (id : CheckId) : (seeNext seen id).Nodup := by
  unfold seeNext
  split
  · exact h
  · rename_i hid
    exact List.nodup_append.mpr ⟨h, List.nodup_singleton _, fun a ha b hb e => by
      rw [List.mem_singleton.mp hb] at e
      exact hid (e ▸ ha)⟩

theorem mem_foldl_seeNext {ids seen : List CheckId} {id : CheckId} :
    id ∈ ids.foldl seeNext seen ↔ id ∈ seen ∨ id ∈ ids := by
  induction ids generalizing seen with
  | nil => simp only [List.foldl_nil, List.not_mem_nil, or_false]
  | cons head rest ih => simp only [List.foldl_cons, ih, mem_seeNext, List.mem_cons, or_assoc]

theorem nodup_foldl_seeNext {ids seen : List CheckId} (h : seen.Nodup) : (ids.foldl seeNext seen).Nodup := by
  induction ids generalizing seen with
  | nil => exact h
  | cons head rest ih => exact ih (nodup_seeNext h head)

theorem foldl_seeNext_of_nodup {ids seen : List CheckId} (h : (seen ++ ids).Nodup) :
    ids.foldl seeNext seen = seen ++ ids := by
  induction ids generalizing seen with
  | nil => simp only [List.foldl_nil, List.append_nil]
  | cons head rest ih =>
    have new : head ∉ seen := fun hm => (List.nodup_append.mp h).2.2 head hm head List.mem_cons_self rfl
    rw [List.foldl_cons, seeNext, if_neg new, ih (by simpa using h), List.append_assoc, List.singleton_append]

/-- No id gets lost, and none is made up. -/
@[simp] theorem mem_firstOccurrences {ids : List CheckId} {id : CheckId} : id ∈ firstOccurrences ids ↔ id ∈ ids := by
  simp only [firstOccurrences_eq_foldl, mem_foldl_seeNext, List.not_mem_nil, false_or]

/-- No id stands twice. -/
theorem nodup_firstOccurrences (ids : List CheckId) : (firstOccurrences ids).Nodup :=
  nodup_foldl_seeNext List.nodup_nil

/-- Where no id stands twice there is nothing to leave out. -/
theorem firstOccurrences_of_nodup {ids : List CheckId} (h : ids.Nodup) : firstOccurrences ids = ids := by
  show ids.foldl seeNext [] = [] ++ ids
  exact foldl_seeNext_of_nodup h

/-- What comes after some ids adds those that are not among them. -/
theorem firstOccurrences_append (ids more : List CheckId) :
    firstOccurrences (ids ++ more) = firstOccurrences ids ++ firstOccurrences (more.filter (· ∉ ids)) := by
  induction more using List.reverseRecOn with
  | nil => rw [List.append_nil, List.filter_nil, firstOccurrences_eq_foldl [], List.foldl_nil, List.append_nil]
  | append_singleton more id ih =>
    rw [← List.append_assoc, firstOccurrences_eq_foldl, List.foldl_concat, ← firstOccurrences_eq_foldl, ih, seeNext]
    by_cases seen : id ∈ ids
    · rw [if_pos (by simp [seen]), List.filter_append, List.filter_cons_of_neg (by simpa using seen), List.filter_nil,
        List.append_nil]
    · rw [List.filter_append, List.filter_cons_of_pos (by simpa using seen), List.filter_nil,
        firstOccurrences_eq_foldl (_ ++ [id]), List.foldl_concat, ← firstOccurrences_eq_foldl, seeNext]
      by_cases again : id ∈ more
      · rw [if_pos (by simp [seen, again]), if_pos (by simp [seen, again])]
      · rw [if_neg (by simp [seen, again]), if_neg (by simp [again]), List.append_assoc]

theorem foldl_seeNext_filter (p : CheckId → Bool) (ids seen : List CheckId) :
    (ids.filter p).foldl seeNext (seen.filter p) = (ids.foldl seeNext seen).filter p := by
  induction ids generalizing seen with
  | nil => rfl
  | cons id rest ih =>
    rw [List.foldl_cons, ← ih]
    by_cases keep : p id = true
    · have same : seeNext (seen.filter p) id = (seeNext seen id).filter p := by
        unfold seeNext
        by_cases met : id ∈ seen
        · rw [if_pos met, if_pos (List.mem_filter.mpr ⟨met, keep⟩)]
        · rw [if_neg met, if_neg (fun mem => met (List.mem_filter.mp mem).1), List.filter_append,
            List.filter_cons_of_pos keep, List.filter_nil]
      rw [List.filter_cons_of_pos keep, List.foldl_cons, same]
    · have same : (seeNext seen id).filter p = seen.filter p := by
        unfold seeNext
        split
        · rfl
        · rw [List.filter_append, List.filter_cons_of_neg keep, List.filter_nil, List.append_nil]
      rw [List.filter_cons_of_neg keep, same]

/-- Leaving ids out first is the same as leaving them out of the first occurrences. -/
theorem firstOccurrences_filter (p : CheckId → Bool) (ids : List CheckId) :
    firstOccurrences (ids.filter p) = (firstOccurrences ids).filter p :=
  foldl_seeNext_filter p ids []

/-- **First occurrences stand in the order of the list.** -/
theorem pairwise_firstOccurrences (ids : List CheckId) : (firstOccurrences ids).Pairwise (Precedes ids) := by
  induction ids using List.reverseRecOn with
  | nil => exact .nil
  | append_singleton ids id ih =>
    have kept : (firstOccurrences ids).Pairwise (Precedes (ids ++ [id])) := by
      refine ih.imp_of_mem fun {a b} ha hb before => ?_
      rw [mem_firstOccurrences] at ha hb
      rwa [Precedes, List.idxOf_append_of_mem ha, List.idxOf_append_of_mem hb]
    rw [firstOccurrences_append]
    by_cases seen : id ∈ ids
    · rwa [List.filter_cons_of_neg (by simpa using seen), List.filter_nil, firstOccurrences_eq_foldl [], List.foldl_nil,
        List.append_nil]
    · rw [List.filter_cons_of_pos (by simpa using seen), List.filter_nil, firstOccurrences_of_nodup (List.nodup_singleton id)]
      refine List.pairwise_append.mpr ⟨kept, List.pairwise_singleton _ _, fun a ha b hb => ?_⟩
      rw [mem_firstOccurrences] at ha
      rw [List.mem_singleton.mp hb, Precedes, List.idxOf_append_of_mem ha, List.idxOf_append_of_notMem seen]
      exact Nat.lt_of_lt_of_le (List.idxOf_lt_length_iff.mpr ha) (Nat.le_add_right _ _)

/-- Where no id stands twice, each item is found under its own. -/
theorem find?_of_nodup {α : Type} {key : α → CheckId} {items : List α} (distinct : (items.map key).Nodup) {a : α}
    (mem : a ∈ items) : items.find? (fun other => key other = key a) = some a := by
  cases found : items.find? (fun other => key other = key a) with
  | none => exact absurd (decide_eq_true rfl) (List.find?_eq_none.mp found a mem)
  | some other =>
    have same : key other = key a := by simpa only [decide_eq_true_eq] using List.find?_some found
    exact congrArg some (List.inj_on_of_nodup_map distinct (List.mem_of_find?_eq_some found) mem same)

end GateRunner.CheckId

namespace GateRunner

variable {κ β : Type} [BEq κ] [LawfulBEq κ] {table : List (κ × β)} {key : κ} {value : β}

/-- In a table without a repeated key, every entry is found. -/
theorem lookup_eq_some_of_mem (distinct : (table.map (·.1)).Nodup) (mem : (key, value) ∈ table) :
    table.lookup key = some value := by
  induction table with
  | nil => cases mem
  | cons entry rest ih =>
    obtain ⟨fresh, distinct⟩ := List.nodup_cons.mp distinct
    rcases List.mem_cons.mp mem with rfl | mem
    · exact List.lookup_cons_self
    · have hne : (key == entry.1) = false := by
        exact beq_eq_false_iff_ne.mpr fun e => fresh (List.mem_map.mpr ⟨_, mem, e⟩)
      rw [List.lookup_cons, hne]
      exact ih distinct mem

theorem mem_of_lookup (h : table.lookup key = some value) : (key, value) ∈ table := by
  obtain ⟨before, after, rfl, _⟩ := List.lookup_eq_some_iff.mp h
  exact List.mem_append_right _ List.mem_cons_self

theorem lookup_cons_ite {κ β : Type} [DecidableEq κ] (held asked : κ) (value : β) (rest : List (κ × β)) :
    ((held, value) :: rest).lookup asked = if asked = held then some value else rest.lookup asked := by
  by_cases h : asked = held
  · rw [h, List.lookup_cons_self, if_pos rfl]
  · rw [List.lookup_cons, beq_false_of_ne h, if_neg h]

theorem lookup_insert_ite {κ β : Type} [DecidableEq κ] (table : AList fun _ : κ => β) (key asked : κ) (value : β) :
    (table.insert key value).lookup asked = if key = asked then some value else table.lookup asked := by
  split
  · rename_i same
    rw [← same, AList.lookup_insert]
  · rename_i apart
    exact AList.lookup_insert_ne (Ne.symm apart)

end GateRunner
