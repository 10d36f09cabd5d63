import GateRunner.Proofs.Registry.Indexed

/-!
# What a registry answers

Everything that is asked of a registry can be told from the calls that were made on it: which ids are registered, with
which profile and maker, which groups there are, and in which order the ids of a category stand.

**The law** (`answers_told_by_calls`): after any history of calls the registry is the map that the calls describe, in
the order in which the ids were last entered. Calls about groups and calls about checks do not meet, and a registry kept
in tables with an index gives the same answers. So it makes no difference that the order is one list here.
-/

namespace GateRunner.Registry

variable {g : Registry}

/-- The answers of a registry as the calls of a history tell them. -/
structure Recounts (history : List Call) (g : Registry) : Prop where
  contains : ∀ id, g.contains id = true ↔ (current history id).isSome = true
  /-- The profile and the maker are those of the last registration. -/
  profile : ∀ id, g.profile? id = (current history id).map (·.profile)
  filed : ∀ id p, g.profile? id = some p → p.id = id
  bound : ∀ config id, g.bind? config id =
    (current history id).map fun r => .ofCheck (r.maker (config.settingsOf id))
  /-- A category lists the profiles of all its registered ids, each once, in the order in which they were entered. -/
  listed : ∀ category p, p ∈ g.inCategory category ↔ p.id.category = category ∧ g.profile? p.id = some p
  once : ∀ category, ((g.inCategory category).map (·.id)).Nodup
  inOrder : ∀ category, (g.inCategory category).Pairwise fun p q => EnteredBefore history p.id q.id
  /-- There is no other list of the same profiles in that order. -/
  settled : ∀ category (other : List CheckProfile), (other.map (·.id)).Nodup →
    (∀ p, p ∈ other ↔ p ∈ g.inCategory category) → (other.Pairwise fun p q => EnteredBefore history p.id q.id) →
    other = g.inCategory category
  sorted : g.sortedIds.Pairwise CheckId.Before
  members : ∀ id, id ∈ g.sortedIds ↔ g.contains id = true
  /-- The lists of all the categories that there are make up the size. -/
  size : ∀ categories : List String, categories.Nodup → (∀ id, g.contains id = true → id.category ∈ categories) →
    categories.foldr (fun category n => (g.inCategory category).length + n) 0 = g.size
  group : ∀ name, g.group? name = members? history name

theorem nodup_inCategory (distinct : g.Distinct) (category : String) : ((g.inCategory category).map (·.id)).Nodup := by
  rw [map_id_inCategory]
  exact distinct.filter _

theorem pairwise_inCategory (history : List Call) (category : String) :
    ((after history).inCategory category).Pairwise fun p q => EnteredBefore history p.id q.id := by
  rw [← List.pairwise_map (f := CheckProfile.id), map_id_inCategory]
  exact (pairwise_ids_after history).filter _

theorem recounts_after (history : List Call) : Recounts history (after history) where
  contains id := by rw [contains_iff, isSome_current]
  profile id := by rw [profile?, find?_after]
  filed id p held := by
    obtain ⟨r, found, rfl⟩ := Option.map_eq_some_iff.mp held
    exact id_of_find? found
  bound config id := by rw [bind?, find?_after]
  listed category p := (distinct_after history).mem_inCategory
  once := nodup_inCategory (distinct_after history)
  inOrder := pairwise_inCategory history
  settled category other distinct same ordered := by
    have once := nodup_inCategory (distinct_after history) category
    have perm := (List.perm_ext_iff_of_nodup distinct.of_map once.of_map).mpr same
    exact perm.eq_of_pairwise (fun _ _ _ _ before after => absurd after before.asymm) ordered
      (pairwise_inCategory history category)
  sorted := CheckId.pairwise_before_sort (distinct_after history)
  members id := CheckId.mem_sort.trans contains_iff.symm
  size categories distinct covers :=
    size_eq_foldr_length distinct fun id held => covers id (contains_iff.mpr held)
  group := group?_after history

/-- **After any history of calls, a registry is the ordered map that the calls describe**, with or without an index. -/
theorem answers_told_by_calls (history : List Call) :
    Recounts history (after history) ∧ (IndexedRegistry.after history).AnswersAlike (after history) ∧
      (after history).entries = (after (history.filter (·.isOfCheck))).entries ∧
      (after history).groups = (after (history.filter (! ·.isOfCheck))).groups :=
  ⟨recounts_after history, (IndexedRegistry.indexes_after history).answersAlike, after_eq_of_parts history⟩

end GateRunner.Registry
