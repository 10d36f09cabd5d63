import GateRunner.Proofs.Check.Written
import GateRunner.Proofs.Registry.Stable

/-!
# What names select

A name stands for the members of its group, or for the id that it is written like, or for nothing. A group comes before
an id of the same spelling, and the members of a group are taken as they are, whatever their own written forms stand for
(`StandFor`). Selection binds the registered ones of these ids, each where it first stands (`FirstRegistered`): an id
that is not registered neither hides another nor takes its place.

**The law** (`selects_first_registered`): this tells the selection. So the selection for more names begins with the one
for the first of them, and a name of a group may be written out, as long as the written forms of its members are read
back and no groups have their names. A category may hold a colon; the written form of such a member is read as another
id (`idsOf_written_iff`), so it does not do in place of the group.
-/

namespace GateRunner.Registry

/-- The ids that some names stand for, in the order of the names. -/
inductive StandFor (g : Registry) : List String → List CheckId → Prop
  | nothing : StandFor g [] []
  /-- A group stands for its members as they are. -/
  | group {name : String} {names : List String} {members ids : List CheckId} (named : g.group? name = some members)
      (rest : StandFor g names ids) : StandFor g (name :: names) (members ++ ids)
  /-- A name without a group stands for the id written so. -/
  | check {id : CheckId} {names : List String} {ids : List CheckId} (alone : g.group? id.written = none)
      (readable : id.Readable) (rest : StandFor g names ids) : StandFor g (id.written :: names) (id :: ids)
  /-- Any other name stands for nothing. -/
  | unknown {name : String} {names : List String} {ids : List CheckId} (alone : g.group? name = none)
      (unwritten : ∀ id : CheckId, id.Readable → name ≠ id.written) (rest : StandFor g names ids) :
      StandFor g (name :: names) ids

/-- The registered ones of some ids, each once, in the order in which they first stand. -/
structure FirstRegistered (g : Registry) (flat chosen : List CheckId) : Prop where
  mem : ∀ id, id ∈ chosen ↔ id ∈ flat ∧ g.contains id = true
  inOrder : chosen.Pairwise (Precedes flat)

variable {g : Registry} {config : Configuration}

/-! ## The ids of names -/

theorem idsOfAll_cons (name : String) (names : List String) :
    g.idsOfAll (name :: names) = g.idsOf name ++ g.idsOfAll names := List.flatMap_cons

theorem idsOfAll_append (names more : List String) :
    g.idsOfAll (names ++ more) = g.idsOfAll names ++ g.idsOfAll more := List.flatMap_append

theorem idsOf_group {name : String} {members : List CheckId} (named : g.group? name = some members) :
    g.idsOf name = members := by rw [idsOf, named]

theorem idsOf_alone {name : String} (alone : g.group? name = none) : g.idsOf name = (CheckId.parse? name).toList := by
  rw [idsOf, alone]

/-- The written form of an id that no group has for its name stands for the id exactly when it is read back. -/
theorem idsOf_written_iff {id : CheckId} (alone : g.group? id.written = none) :
    g.idsOf id.written = [id] ↔ CheckId.parse id.written = .ok id := by
  rw [idsOf_alone alone, Option.toList_eq_singleton_iff, CheckId.parse?]
  cases CheckId.parse id.written with
  | error e => simp [Except.toOption]
  | ok other => simp [Except.toOption]

theorem idsOf_eq_nil {name : String} (alone : g.group? name = none)
    (unwritten : ∀ id : CheckId, id.Readable → name ≠ id.written) : g.idsOf name = [] := by
  rw [idsOf_alone alone, CheckId.parse?]
  cases read : CheckId.parse name with
  | error e => rfl
  | ok id =>
    obtain ⟨written, readable⟩ := CheckId.parse_eq_ok_iff.mp read
    exact absurd written (unwritten id readable)

theorem standFor_idsOfAll (g : Registry) (names : List String) : g.StandFor names (g.idsOfAll names) := by
  induction names with
  | nil => exact .nothing
  | cons name names ih =>
    rw [idsOfAll_cons]
    cases named : g.group? name with
    | some members => exact idsOf_group named ▸ .group named ih
    | none =>
      by_cases written : ∃ id : CheckId, id.Readable ∧ name = id.written
      · obtain ⟨id, readable, rfl⟩ := written
        rw [(idsOf_written_iff named).mpr (CheckId.parse_written readable)]
        exact .check named readable ih
      · have unwritten : ∀ id : CheckId, id.Readable → name ≠ id.written := fun id readable same =>
          written ⟨id, readable, same⟩
        rw [idsOf_eq_nil named unwritten]
        exact .unknown named unwritten ih

theorem StandFor.eq {names : List String} {ids : List CheckId} (stand : g.StandFor names ids) : ids = g.idsOfAll names := by
  induction stand with
  | nothing => rfl
  | group named _ ih => rw [idsOfAll_cons, idsOf_group named, ← ih]
  | check alone readable _ ih =>
    rw [idsOfAll_cons, (idsOf_written_iff alone).mpr (CheckId.parse_written readable), ← ih, List.singleton_append]
  | unknown alone unwritten _ ih => rw [idsOfAll_cons, idsOf_eq_nil alone unwritten, ← ih, List.nil_append]

/-- **What names stand for is told by their groups and by the readable ids.** -/
theorem standFor_iff {names : List String} {ids : List CheckId} : g.StandFor names ids ↔ ids = g.idsOfAll names :=
  ⟨StandFor.eq, fun same => same ▸ standFor_idsOfAll g names⟩

/-- A group comes before the check that has its name, and its members are not looked at again. -/
example : (empty.nameGroup "a:b" [⟨"c", "d"⟩, ⟨"a", "b"⟩]).idsOfAll ["c:e", "a:b", "ghost", "c:d"] =
    [⟨"c", "e"⟩, ⟨"c", "d"⟩, ⟨"a", "b"⟩, ⟨"c", "d"⟩] := by decide +kernel

/-! ## The registered ones -/

/-- The registered ones of some ids, as the loop gives them. -/
theorem firstRegistered_filter (flat : List CheckId) :
    g.FirstRegistered flat ((CheckId.firstOccurrences flat).filter g.contains) where
  mem id := by rw [List.mem_filter, CheckId.mem_firstOccurrences]
  inOrder := (CheckId.pairwise_firstOccurrences flat).sublist List.filter_sublist

theorem FirstRegistered.unique {flat chosen others : List CheckId} (first : g.FirstRegistered flat chosen)
    (other : g.FirstRegistered flat others) : chosen = others := by
  have distinct : ∀ {ids : List CheckId}, ids.Pairwise (Precedes flat) → ids.Nodup := fun pairs =>
    List.nodup_iff_pairwise_ne.mpr (pairs.imp fun before same => absurd (same ▸ before) (Nat.lt_irrefl _))
  have perm : chosen.Perm others := (List.perm_ext_iff_of_nodup (distinct first.inOrder) (distinct other.inOrder)).mpr
    fun id => (first.mem id).trans (other.mem id).symm
  exact perm.eq_of_pairwise (fun _ _ _ _ before after => absurd after before.asymm) first.inOrder other.inOrder

theorem firstRegistered_iff {flat chosen : List CheckId} :
    g.FirstRegistered flat chosen ↔ chosen = (CheckId.firstOccurrences flat).filter g.contains :=
  ⟨fun first => first.unique (firstRegistered_filter flat), fun same => same ▸ firstRegistered_filter flat⟩

/-- Binding the registered ones of some ids is binding those of them that can be bound. -/
theorem filterMap_filter_contains (config : Configuration) (ids : List CheckId) :
    (ids.filter g.contains).filterMap (g.bind? config) = ids.filterMap (g.bind? config) := by
  rw [List.filterMap_filter]
  refine List.filterMap_congr fun id _ => ?_
  split
  · rfl
  · rename_i absent
    cases bound : g.bind? config id with
    | none => rfl
    | some i => exact absurd (contains_of_bind? bound) absent

/-- Every registered id is bound. -/
theorem map_some_filterMap_bind? (config : Configuration) {ids : List CheckId}
    (registered : ∀ id ∈ ids, g.contains id = true) :
    (ids.filterMap (g.bind? config)).map some = ids.map (g.bind? config) := by
  induction ids with
  | nil => rfl
  | cons id rest ih =>
    obtain ⟨i, bound⟩ := exists_bind?_of_contains (registered id List.mem_cons_self) config
    rw [List.filterMap_cons_some bound, List.map_cons, List.map_cons, bound,
      ih fun other mem => registered other (List.mem_cons_of_mem _ mem)]

theorem FirstRegistered.bound {flat chosen : List CheckId} (first : g.FirstRegistered flat chosen) :
    ((CheckId.firstOccurrences flat).filterMap (g.bind? config)).map some = chosen.map (g.bind? config) := by
  rw [← filterMap_filter_contains config, ← firstRegistered_iff.mp first]
  exact map_some_filterMap_bind? config fun id mem => ((first.mem id).mp mem).2

/-! ## Selection -/

theorem select_append (config : Configuration) (names more : List String) :
    g.select config (names ++ more) = g.select config names ++
      (CheckId.firstOccurrences ((g.idsOfAll more).filter (· ∉ g.idsOfAll names))).filterMap (g.bind? config) := by
  rw [select, idsOfAll_append, CheckId.firstOccurrences_append, List.filterMap_append, select]

/-- The written forms of ids that are read back, none of them the name of a group, stand for these ids. -/
theorem idsOfAll_map_written {ids : List CheckId}
    (plain : ∀ id ∈ ids, CheckId.parse id.written = .ok id ∧ g.group? id.written = none) :
    g.idsOfAll (ids.map CheckId.written) = ids := by
  induction ids with
  | nil => rfl
  | cons id rest ih =>
    obtain ⟨read, alone⟩ := plain id List.mem_cons_self
    rw [List.map_cons, idsOfAll_cons, (idsOf_written_iff alone).mpr read,
      ih fun other mem => plain other (List.mem_cons_of_mem _ mem), List.singleton_append]

/-- **A selection binds the registered ones of the ids that the names stand for, each where it first stands.** Names that
are added add the registered ones of their ids that are new, and a group may be written out, as long as the written forms
of its members are read back and are no groups themselves. -/
theorem selects_first_registered (g : Registry) (config : Configuration) :
    (∀ names, ∃ flat chosen, (∀ ids, g.StandFor names ids ↔ ids = flat) ∧
      (∀ ids, g.FirstRegistered flat ids ↔ ids = chosen) ∧
      (g.select config names).map some = chosen.map (g.bind? config)) ∧
    (∀ names more flat flat' added, g.StandFor names flat → g.StandFor more flat' →
      g.FirstRegistered (flat'.filter (· ∉ flat)) added →
      ∃ bound, bound.map some = added.map (g.bind? config) ∧
        g.select config (names ++ more) = g.select config names ++ bound) ∧
    ∀ before name after members, g.group? name = some members →
      (∀ id ∈ members, CheckId.parse id.written = .ok id ∧ g.group? id.written = none) →
      g.select config (before ++ members.map CheckId.written ++ after) = g.select config (before ++ name :: after) := by
  refine ⟨fun names => ⟨g.idsOfAll names, _, fun _ => standFor_iff, fun _ => firstRegistered_iff,
    (firstRegistered_filter _).bound⟩, ?_, ?_⟩
  · intro names more flat flat' added stand stand' first
    rw [stand.eq, stand'.eq] at first
    exact ⟨_, first.bound, select_append config names more⟩
  · intro before name after members named plain
    have same : g.idsOfAll (before ++ members.map CheckId.written ++ after) = g.idsOfAll (before ++ name :: after) := by
      rw [idsOfAll_append, idsOfAll_append, idsOfAll_append, idsOfAll_cons, idsOfAll_map_written plain,
        idsOf_group named, List.append_assoc]
    rw [select, select, same]

/-- Types and tests, and a group of both with an id in between that is not registered. -/
def suited : Registry :=
  let check (name : String) : Check :=
    .plain ⟨"python", name⟩ name (fun _ => true) (fun project => (.done (.passed ⟨"python", name⟩ .zero), project)) 0
  ((empty.add fun _ => check "types").2.add fun _ => check "tests").2.nameGroup "suite"
    [⟨"python", "tests"⟩, ⟨"python", "docs"⟩, ⟨"python", "types"⟩]

/-- After the tests the group adds the types, and it may be written out. -/
theorem suite_selected :
    (∃ flat chosen, (∀ ids, suited.StandFor ["suite", "ghost", "python:tests"] ids ↔ ids = flat) ∧
      (∀ ids, suited.FirstRegistered flat ids ↔ ids = chosen) ∧
      (suited.select .default ["suite", "ghost", "python:tests"]).map some = chosen.map (suited.bind? .default)) ∧
    (suited.group? "suite").isSome = true ∧
    (∃ bound, bound.map some = [suited.bind? .default ⟨"python", "types"⟩] ∧
      suited.select .default (["python:tests"] ++ ["suite"]) = suited.select .default ["python:tests"] ++ bound) ∧
    suited.select .default (["python:types"] ++ ["python:tests", "python:docs", "python:types"] ++ []) =
      suited.select .default (["python:types"] ++ "suite" :: []) := by
  obtain ⟨selected, added, written⟩ := selects_first_registered suited .default
  refine ⟨selected _, by decide +kernel, ?_, ?_⟩
  · refine added _ _ [⟨"python", "tests"⟩] [⟨"python", "tests"⟩, ⟨"python", "docs"⟩, ⟨"python", "types"⟩]
      [⟨"python", "types"⟩] ?_ ?_ ?_
    · exact standFor_iff.mpr (by decide +kernel)
    · exact standFor_iff.mpr (by decide +kernel)
    · exact firstRegistered_iff.mpr (by decide +kernel)
  · exact written _ "suite" _ [⟨"python", "tests"⟩, ⟨"python", "docs"⟩, ⟨"python", "types"⟩] (by decide +kernel)
      (by decide +kernel)

end GateRunner.Registry
