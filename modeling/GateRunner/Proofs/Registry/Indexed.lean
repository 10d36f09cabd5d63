import GateRunner.Proofs.Registry.Calls
import Mathlib.Data.List.AList

/-!
# Registries with an index

A registry can be kept in tables, whose keys have no order. Then the order has to be written down: beside the table of
registrations stands an index, which lists for each category its ids, from the first to the last that was entered. The
same fact stands in two places, and each operation has to keep both. An id that is registered anew must not be listed
again, and one that is taken out must be struck off the list of its category.

**The law** (`indexes_after`): whatever calls are made, the tables and the registry hold the same, in the sense of
`Indexes`. So they answer alike (`Indexes.answersAlike`).
-/

namespace GateRunner

/-- A registry in tables. -/
structure IndexedRegistry where
  checks : AList fun _ : CheckId => Registration
  categories : AList fun _ : String => List CheckId
  groups : AList fun _ : String => List CheckId

namespace IndexedRegistry

/-- Tables with nothing in them. -/
def empty : IndexedRegistry := ⟨∅, ∅, ∅⟩

/-- The ids that the index lists for a category. -/
def idsIn (t : IndexedRegistry) (category : String) : List CheckId := (t.categories.lookup category).getD []

/-- The tables with one more registration. Its id is listed if it was not registered before. -/
def insert (t : IndexedRegistry) (new : Registration) : IndexedRegistry :=
  { t with
    checks := t.checks.insert new.id new
    categories :=
      if new.id ∈ t.checks then t.categories
      else t.categories.insert new.id.category (t.idsIn new.id.category ++ [new.id]) }

/-- The tables without an id. It is struck off the list of its category, if it was registered. -/
def remove (t : IndexedRegistry) (id : CheckId) : IndexedRegistry :=
  if id ∈ t.checks then
    { t with
      checks := t.checks.erase id
      categories :=
        match t.categories.lookup id.category with
        | some ids => t.categories.insert id.category (ids.filter (· ≠ id))
        | none => t.categories }
  else t

/-- The tables after a call. -/
def apply (t : IndexedRegistry) (call : Registry.Call) : IndexedRegistry :=
  match call with
  | .remove id => t.remove id
  | .nameGroup name members => { t with groups := t.groups.insert name members }
  | call => (call.registration?.map t.insert).getD t

/-- The tables after a history of calls. -/
def after (history : List Registry.Call) : IndexedRegistry := history.foldl apply empty

/-- The profile of a registered id. -/
def profile? (t : IndexedRegistry) (id : CheckId) : Option CheckProfile := (t.checks.lookup id).map (·.profile)

/-- The check of an id, bound to its settings in a configuration. -/
def bind? (t : IndexedRegistry) (config : Configuration) (id : CheckId) : Option BoundCheck :=
  (t.checks.lookup id).map (fun r => .ofCheck (r.maker (config.settingsOf id)))

/-- The profiles of the ids that the index lists for a category. -/
def inCategory (t : IndexedRegistry) (category : String) : List CheckProfile := (t.idsIn category).filterMap t.profile?

/-- Every registered id, in order. -/
def sortedIds (t : IndexedRegistry) : List CheckId := CheckId.sort t.checks.keys

/-- The tables and a registry hold the same. -/
structure Indexes (t : IndexedRegistry) (g : Registry) : Prop where
  distinct : g.Distinct
  found : ∀ id, t.checks.lookup id = g.find? id
  listed : ∀ category, t.idsIn category = g.ids.filter (fun id => id.category = category)
  named : ∀ name, t.groups.lookup name = g.group? name

/-- The tables and a registry give the same answers. -/
structure AnswersAlike (t : IndexedRegistry) (g : Registry) : Prop where
  contains : ∀ id, id ∈ t.checks ↔ g.contains id = true
  profile : ∀ id, t.profile? id = g.profile? id
  bound : ∀ config id, t.bind? config id = g.bind? config id
  inCategory : ∀ category, t.inCategory category = g.inCategory category
  sortedIds : t.sortedIds = g.sortedIds
  size : t.checks.keys.length = g.size
  group : ∀ name, t.groups.lookup name = g.group? name

variable {t : IndexedRegistry} {g : Registry}

theorem lookup_erase_ite {α β : Type} [DecidableEq α] (table : AList fun _ : α => β) (key asked : α) :
    (table.erase key).lookup asked = if key = asked then none else table.lookup asked := by
  split
  · rename_i same
    rw [← same, AList.lookup_erase]
  · rename_i apart
    exact AList.lookup_erase_ne (Ne.symm apart)

theorem idsIn_insert_categories (t : IndexedRegistry) (key category : String) (ids : List CheckId) :
    { t with categories := t.categories.insert key ids }.idsIn category =
      if key = category then ids else t.idsIn category := by
  simp only [idsIn, lookup_insert_ite]
  split <;> rfl

namespace Indexes

variable (same : t.Indexes g)

include same

theorem mem_checks {id : CheckId} : id ∈ t.checks ↔ id ∈ g.ids := by
  rw [← AList.lookup_isSome, same.found, Registry.isSome_find?]

theorem insert (new : Registration) : (t.insert new).Indexes (g.insert new) where
  distinct := same.distinct.insert new
  found id := by rw [IndexedRegistry.insert, lookup_insert_ite, Registry.find?_insert, same.found]
  listed category := by
    simp only [IndexedRegistry.insert, Registry.ids_insert, same.mem_checks]
    split
    · exact same.listed category
    · refine (idsIn_insert_categories t _ category _).trans ?_
      rw [List.filter_append, same.listed, same.listed]
      split
      · rename_i within
        simp [within]
      · rename_i apart
        simp [apart]
  named := same.named

theorem mem_idsIn {id : CheckId} {category : String} :
    id ∈ t.idsIn category ↔ id ∈ t.checks ∧ id.category = category := by
  rw [same.listed, List.mem_filter, decide_eq_true_eq, same.mem_checks]

/-- Taking an id out strikes it off wherever it is listed. -/
theorem idsIn_remove (id : CheckId) (category : String) :
    (t.remove id).idsIn category = (t.idsIn category).filter (· ≠ id) := by
  have unlisted (missing : id ∉ t.idsIn category) : (t.idsIn category).filter (· ≠ id) = t.idsIn category :=
    List.filter_eq_self.mpr fun other mem => decide_eq_true fun e => missing (e ▸ mem)
  unfold IndexedRegistry.remove
  split
  · by_cases within : id.category = category
    · subst within
      simp only [idsIn]
      cases held : t.categories.lookup id.category with
      | some ids => simp only [AList.lookup_insert, Option.getD_some]
      | none => simp only [held, Option.getD_none, List.filter_nil]
    · rw [unlisted fun mem => within (same.mem_idsIn.mp mem).2]
      split
      · exact (idsIn_insert_categories t _ category _).trans (if_neg within)
      · rfl
  · rename_i missing
    exact (unlisted fun mem => missing (same.mem_idsIn.mp mem).1).symm

theorem remove (id : CheckId) : (t.remove id).Indexes (g.remove id).2 where
  distinct := same.distinct.remove id
  found asked := by
    rw [Registry.find?_remove, ← same.found, IndexedRegistry.remove]
    by_cases held : id ∈ t.checks
    · rw [if_pos held]
      exact lookup_erase_ite ..
    · rw [if_neg held]
      split
      · rename_i e
        exact AList.lookup_eq_none.mpr (e ▸ held)
      · rfl
  listed category := by
    rw [same.idsIn_remove, same.listed, Registry.ids_remove, List.filter_filter, List.filter_filter]
    simp only [Bool.and_comm]
  named := by
    unfold IndexedRegistry.remove
    split <;> exact same.named

theorem apply (call : Registry.Call) : (t.apply call).Indexes (call.apply g) := by
  cases call with
  | add maker => exact same.insert _
  | addAs maker profile => exact same.insert _
  | remove id => exact same.remove id
  | nameGroup name members =>
    exact ⟨same.distinct, same.found, same.listed, fun asked => by
      rw [Registry.Call.apply, Registry.group?_nameGroup, ← same.named]
      exact lookup_insert_ite ..⟩

/-- **What holds the same answers alike.** -/
theorem answersAlike : t.AnswersAlike g where
  contains id := by rw [same.mem_checks, Registry.contains_iff]
  profile id := by rw [profile?, same.found, Registry.profile?]
  bound config id := by rw [bind?, same.found, Registry.bind?]
  inCategory category := by
    have filed {r : Registration} (held : r ∈ g.entries) : t.profile? r.id = some r.profile := by
      rw [profile?, same.found, same.distinct.find?_eq_some_iff.mpr ⟨held, rfl⟩, Option.map_some]
    rw [inCategory, same.listed, Registry.ids, List.filter_map, List.filterMap_map, Registry.inCategory, List.filter_map]
    exact List.filterMap_eq_map_iff_forall_eq_some.mpr fun r mem => filed (List.mem_filter.mp mem).1
  sortedIds := CheckId.sort_congr t.checks.keys_nodup same.distinct fun id => same.mem_checks
  size := by
    have perm := (List.perm_ext_iff_of_nodup t.checks.keys_nodup same.distinct).mpr fun id => same.mem_checks
    exact perm.length_eq.trans (List.length_map _)
  group := same.named

end Indexes

/-- **Whatever calls are made, the tables and the registry hold the same.** -/
theorem indexes_after (history : List Registry.Call) : (after history).Indexes (Registry.after history) := by
  induction history using List.reverseRecOn with
  | nil => exact ⟨List.nodup_nil, fun _ => rfl, fun _ => rfl, fun _ => rfl⟩
  | append_singleton history call ih =>
    rw [after, List.foldl_concat, Registry.after_concat]
    exact ih.apply call

end IndexedRegistry
end GateRunner
