import GateRunner.Check.Scripted
import GateRunner.Proofs.Check.Occurrences
import GateRunner.Registry

/-!
# Makers that keep to their ids

What is registered is a maker, and the id it is filed under is the one of the check made for no settings. A registry is
`IdStable` when each of its makers makes, for all settings, a check with the id it is filed under. Nothing enforces
this: a maker may look at its settings when it names its check. Registering makers that do not keeps a registry stable
(`IdStable.add`).

**The law** (`IdStable.nodup_select`): in a stable registry what is bound for an id has that id, so a selection holds no
check twice, whatever the names.
-/

namespace GateRunner.Registry

/-- Every maker makes, for all settings, a check with the id that it is filed under. -/
def IdStable (g : Registry) : Prop := ∀ r ∈ g.entries, ∀ settings, (r.maker settings).id = r.id

theorem idStable_empty : empty.IdStable := fun _ hr => absurd hr List.not_mem_nil

theorem mem_insertInto {new r : Registration} {entries : List Registration} (h : r ∈ insertInto new entries) :
    r = new ∨ r ∈ entries := by
  induction entries with
  | nil => exact .inl (List.mem_singleton.mp h)
  | cons first rest ih =>
    unfold insertInto at h
    split at h
    · exact (List.mem_cons.mp h).imp_right (List.mem_cons_of_mem _)
    · rcases List.mem_cons.mp h with rfl | h
      · exact .inr List.mem_cons_self
      · exact (ih h).imp_right (List.mem_cons_of_mem _)

variable {g : Registry} {config : Configuration}

/-- A maker whose check has the same id for all settings leaves a registry stable. -/
theorem IdStable.add (stable : g.IdStable) {maker : CheckMaker}
    (keeps : ∀ settings, (maker settings).id = (maker .empty).id) : (g.add maker).2.IdStable := by
  intro r hr settings
  rcases mem_insertInto hr with rfl | hr
  · exact keeps settings
  · exact stable r hr settings

/-- A registry of scripted checks. -/
def ofScripts (scripts : List CheckScript) : Registry := scripts.foldl (fun g s => (g.add fun _ => s.toCheck).2) empty

theorem idStable_ofScripts (scripts : List CheckScript) : (ofScripts scripts).IdStable := by
  have general : ∀ g : Registry, g.IdStable →
      (scripts.foldl (fun g s => (g.add fun _ => s.toCheck).2) g).IdStable := by
    induction scripts with
    | nil => exact fun _ stable => stable
    | cons s rest ih => exact fun _ stable => ih _ (stable.add fun _ => rfl)
  exact general empty idStable_empty

/-- What is registered then is what the scripts have. -/
theorem exists_script_of_mem_ofScripts {scripts : List CheckScript} {r : Registration}
    (hr : r ∈ (ofScripts scripts).entries) : ∃ s ∈ scripts, ∀ settings, r.maker settings = s.toCheck := by
  have general : ∀ g : Registry, r ∈ (scripts.foldl (fun g s => (g.add fun _ => s.toCheck).2) g).entries →
      r ∈ g.entries ∨ ∃ s ∈ scripts, ∀ settings, r.maker settings = s.toCheck := by
    clear hr
    induction scripts with
    | nil => exact fun _ => .inl
    | cons s rest ih =>
      intro g hr
      rcases ih _ hr with hr | ⟨s', mem, follows⟩
      · rcases mem_insertInto hr with rfl | hr
        · exact .inr ⟨s, List.mem_cons_self, fun _ => rfl⟩
        · exact .inl hr
      · exact .inr ⟨s', List.mem_cons_of_mem _ mem, follows⟩
  exact (general empty hr).resolve_left List.not_mem_nil

/-! ## Binding -/

/-- Only a registered id is bound. -/
theorem exists_entry_of_bind? {id : CheckId} {i : BoundCheck} (bound : g.bind? config id = some i) :
    ∃ r ∈ g.entries, r.id = id ∧ i = .ofCheck (r.maker (config.settingsOf id)) := by
  obtain ⟨r, found, rfl⟩ := Option.map_eq_some_iff.mp bound
  have filed : r.id = id := by simpa only [decide_eq_true_eq] using List.find?_some found
  exact ⟨r, List.mem_of_find?_eq_some found, filed, rfl⟩

/-- What is bound is registered. -/
theorem contains_of_bind? {id : CheckId} {i : BoundCheck} (bound : g.bind? config id = some i) : g.contains id = true := by
  obtain ⟨r, hr, filed, _⟩ := exists_entry_of_bind? bound
  exact List.any_eq_true.mpr ⟨r, hr, decide_eq_true filed⟩

/-- What is registered is bound. -/
theorem exists_bind?_of_contains {id : CheckId} (registered : g.contains id = true) (config : Configuration) :
    ∃ i, g.bind? config id = some i := by
  obtain ⟨r, hr, filed⟩ := List.any_eq_true.mp registered
  have found : (g.find? id).isSome = true := List.find?_isSome.mpr ⟨r, hr, filed⟩
  obtain ⟨r', found⟩ := Option.isSome_iff_exists.mp found
  exact ⟨_, by rw [bind?, found, Option.map_some]⟩

/-- What is bound for an id has that id. -/
theorem IdStable.id_of_bind? (stable : g.IdStable) {id : CheckId} {i : BoundCheck} (bound : g.bind? config id = some i) :
    i.id = id := by
  obtain ⟨r, hr, filed, rfl⟩ := exists_entry_of_bind? bound
  exact (stable r hr _).trans filed

/-- Binding some ids keeps their order, and leaves out those that are not registered. -/
theorem IdStable.sublist_bind? (stable : g.IdStable) (ids : List CheckId) :
    ((ids.filterMap (g.bind? config)).map (·.id)).Sublist ids := by
  induction ids with
  | nil => exact .slnil
  | cons id rest ih =>
    cases bound : g.bind? config id with
    | none =>
      rw [List.filterMap_cons_none bound]
      exact ih.cons id
    | some i =>
      rw [List.filterMap_cons_some bound, List.map_cons, stable.id_of_bind? bound]
      exact ih.cons_cons id

/-- A selection holds what is bound for the ids that the names stand for. -/
theorem mem_select {names : List String} {i : BoundCheck} :
    i ∈ g.select config names ↔ ∃ id ∈ g.idsOfAll names, g.bind? config id = some i := by
  simp only [select, List.mem_filterMap, CheckId.mem_firstOccurrences]

/-- **What some names stand for is bound once each.** -/
theorem IdStable.nodup_select (stable : g.IdStable) (names : List String) :
    ((g.select config names).map (·.id)).Nodup :=
  (CheckId.nodup_firstOccurrences _).sublist (stable.sublist_bind? _)

end GateRunner.Registry
