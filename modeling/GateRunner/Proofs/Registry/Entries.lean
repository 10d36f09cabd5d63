import GateRunner.Proofs.Check.Occurrences
import GateRunner.Proofs.Check.Order
import GateRunner.Registry

/-!
# What is registered, by id and by place

The entries of a registry are looked up by id, and they have an order. Each operation is told twice here: what it makes of
the lookup (`find?_insert`, `find?_remove`, `group?_nameGroup`) and what it makes of the order (`ids_insert`,
`ids_remove`). Registering an id anew leaves it where it stands; a new one goes to the end.

A registry is `Distinct` when no id is registered twice, and every operation keeps it so. What a distinct registry answers
about a category, about all ids in order and about their number can be told from the lookup and the order.
-/

namespace GateRunner.Registry

variable {g : Registry} {new r : Registration} {id other : CheckId}

/-- The registered ids, in the order of the entries. -/
def ids (g : Registry) : List CheckId := g.entries.map (·.id)

/-- No id is registered twice. -/
def Distinct (g : Registry) : Prop := g.ids.Nodup

/-! ## The lookup -/

theorem find?_insert : (g.insert new).find? id = if new.id = id then some new else g.find? id := by
  have general (entries : List Registration) : (insertInto new entries).find? (fun r => r.id = id) =
      if new.id = id then some new else entries.find? (fun r => r.id = id) := by
    induction entries with
    | nil => by_cases h : new.id = id <;> simp [insertInto, h]
    | cons first rest ih =>
      unfold insertInto
      split
      · rename_i same
        by_cases h : new.id = id <;> simp [same, h]
      · rename_i apart
        by_cases h : first.id = id
        · have kept : ¬ new.id = id := fun e => apart (h.trans e.symm)
          simp [h, kept]
        · simp [h, ih]
  exact general g.entries

theorem find?_remove : (g.remove other).2.find? id = if other = id then none else g.find? id := by
  simp only [find?, remove, List.find?_filter]
  split
  · rename_i same
    refine List.find?_eq_none.mpr fun r _ => ?_
    simp only [same, ne_eq, decide_eq_true_eq, not_and]
    exact fun apart filed => apart filed
  · rename_i apart
    refine congrArg (g.entries.find? ·) (funext fun r => ?_)
    by_cases filed : r.id = id
    · simp [filed, Ne.symm apart]
    · simp [filed]

theorem mem_ids : id ∈ g.ids ↔ ∃ r ∈ g.entries, r.id = id := List.mem_map

theorem isSome_find? : (g.find? id).isSome = true ↔ id ∈ g.ids := by
  simp only [find?, List.find?_isSome, decide_eq_true_eq, mem_ids]

theorem contains_iff : g.contains id = true ↔ id ∈ g.ids := by
  simp only [contains, List.any_eq_true, decide_eq_true_eq, mem_ids]

/-- What is found is filed under the id. -/
theorem id_of_find? (found : g.find? id = some r) : r.id = id := by
  simpa only [decide_eq_true_eq] using List.find?_some found

/-- What a name stands for after a group was named. -/
theorem group?_nameGroup {name asked : String} {members : List CheckId} :
    (g.nameGroup name members).group? asked = if name = asked then some members else g.group? asked := by
  have general (groups : List (String × List CheckId)) : (bindGroup name members groups).lookup asked =
      if name = asked then some members else groups.lookup asked := by
    have lookup_cons (held : String) (ids : List CheckId) (rest : List (String × List CheckId)) :
        ((held, ids) :: rest).lookup asked = if held = asked then some ids else rest.lookup asked := by
      by_cases h : asked = held
      · rw [h, List.lookup_cons_self, if_pos rfl]
      · rw [List.lookup_cons, beq_false_of_ne h, if_neg (Ne.symm h)]
    induction groups with
    | nil => exact lookup_cons name members []
    | cons first rest ih =>
      obtain ⟨held, ids⟩ := first
      unfold bindGroup
      split
      · rename_i same
        simp only [lookup_cons, same]
        split <;> rfl
      · rename_i apart
        simp only [lookup_cons, ih]
        split
        · rename_i h
          rw [if_neg fun e => apart (h.trans e.symm)]
        · rfl
  exact general g.groups

/-! ## The order -/

theorem ids_insert : (g.insert new).ids = if new.id ∈ g.ids then g.ids else g.ids ++ [new.id] := by
  have general (entries : List Registration) : (insertInto new entries).map (·.id) =
      if new.id ∈ entries.map (·.id) then entries.map (·.id) else entries.map (·.id) ++ [new.id] := by
    induction entries with
    | nil => rfl
    | cons first rest ih =>
      unfold insertInto
      split
      · rename_i same
        simp [same]
      · rename_i apart
        by_cases h : new.id ∈ rest.map (·.id)
        · rw [List.map_cons, ih, if_pos h, List.map_cons, if_pos (List.mem_cons_of_mem _ h)]
        · have missing := List.not_mem_cons_of_ne_of_not_mem (Ne.symm apart) h
          rw [List.map_cons, ih, if_neg h, List.map_cons, if_neg missing, List.cons_append]
  exact general g.entries

theorem ids_remove : (g.remove id).2.ids = g.ids.filter (· ≠ id) := by
  simp only [ids, remove, List.filter_map]
  rfl

theorem Distinct.insert (distinct : g.Distinct) (new : Registration) : (g.insert new).Distinct := by
  unfold Distinct
  rw [ids_insert]
  split
  · exact distinct
  · rename_i missing
    exact List.nodup_append.mpr ⟨distinct, List.nodup_singleton _, fun a ha b hb same =>
      missing (List.mem_singleton.mp hb ▸ same ▸ ha)⟩

theorem Distinct.remove (distinct : g.Distinct) (id : CheckId) : (g.remove id).2.Distinct := by
  unfold Distinct
  rw [ids_remove]
  exact List.Nodup.filter _ distinct

/-! ## What a registry answers -/

theorem Distinct.find?_eq_some_iff (distinct : g.Distinct) : g.find? id = some r ↔ r ∈ g.entries ∧ r.id = id := by
  refine ⟨fun found => ⟨List.mem_of_find?_eq_some found, id_of_find? found⟩, ?_⟩
  rintro ⟨held, rfl⟩
  exact CheckId.find?_of_nodup distinct held

/-- A category holds the profiles of its registered ids. -/
theorem Distinct.mem_inCategory (distinct : g.Distinct) {category : String} {p : CheckProfile} :
    p ∈ g.inCategory category ↔ p.id.category = category ∧ g.profile? p.id = some p := by
  simp only [inCategory, List.mem_filter, List.mem_map, decide_eq_true_eq, profile?, Option.map_eq_some_iff,
    distinct.find?_eq_some_iff]
  constructor
  · rintro ⟨⟨r, held, rfl⟩, within⟩
    exact ⟨within, r, ⟨held, rfl⟩, rfl⟩
  · rintro ⟨within, r, ⟨held, -⟩, rfl⟩
    exact ⟨⟨r, held, rfl⟩, within⟩

/-- The ids of a category stand in the order of the entries. -/
theorem map_id_inCategory (category : String) :
    (g.inCategory category).map (·.id) = g.ids.filter (fun id => id.category = category) := by
  simp only [inCategory, ids, List.filter_map, List.map_map]
  rfl

/-- The members of a list, parted by what a function says of them, are as many as all together. -/
theorem length_eq_foldr_filter {α β : Type} [DecidableEq β] (part : α → β) {parts : List β} (distinct : parts.Nodup)
    {all : List α} (covers : ∀ a ∈ all, part a ∈ parts) :
    parts.foldr (fun b n => (all.filter (fun a => part a = b)).length + n) 0 = all.length := by
  induction parts generalizing all with
  | nil => exact (List.length_eq_zero_iff.mpr (List.eq_nil_iff_forall_not_mem.mpr fun a mem =>
      absurd (covers a mem) List.not_mem_nil)).symm
  | cons first rest ih =>
    obtain ⟨new, distinct⟩ := List.nodup_cons.mp distinct
    -- Those of another part are the same among those that are not of the first part.
    have others (b : β) (mem : b ∈ rest) :
        all.filter (fun a => part a = b) = (all.filter (fun a => ! decide (part a = first))).filter (fun a => part a = b) := by
      rw [List.filter_filter]
      refine List.filter_congr fun a _ => ?_
      by_cases within : part a = b
      · have apart : b ≠ first := fun same => new (same ▸ mem)
        simp [within, apart]
      · simp [within]
    have remain : ∀ a ∈ all.filter (fun a => ! decide (part a = first)), part a ∈ rest := fun a mem => by
      obtain ⟨held, apart⟩ := List.mem_filter.mp mem
      exact (List.mem_cons.mp (covers a held)).resolve_left (by simpa using apart)
    have counted := ih distinct remain
    rw [List.foldr_ext _ _ 0 fun b mem n => by rw [← others b mem]] at counted
    rw [List.foldr_cons, counted]
    exact (List.length_eq_length_filter_add (fun a => decide (part a = first))).symm

/-- Parted by categories that include all of them, the checks are as many as all together. -/
theorem size_eq_foldr_length {categories : List String} (distinct : categories.Nodup)
    (covers : ∀ id ∈ g.ids, id.category ∈ categories) :
    categories.foldr (fun category n => (g.inCategory category).length + n) 0 = g.size := by
  have each (category : String) :
      (g.inCategory category).length = (g.ids.filter (fun id => id.category = category)).length := by
    rw [← map_id_inCategory, List.length_map]
  simp only [each, length_eq_foldr_filter CheckId.category distinct covers]
  exact List.length_map _

end GateRunner.Registry
