import GateRunner.Project.Tree
import GateRunner.Proofs.Check.Occurrences

/-!
# What stands below an entry

An entry can be asked for what stands at a path, or for a list of everything below it. The two tell the same tree, if no
directory names two of its entries alike (`NamesApart`): the list has each path at which something stands, with what
stands there (`mem_listing_iff`), and none twice (`nodup_listing`).

Both go through the tree together with the entries of a directory, so what is said of an entry and of a list of named
entries is proved in one induction over the tree.
-/

namespace GateRunner.Entry

variable {path : List String} {name : String} {e : Entry} {entries rest : List (String × Entry)}

/-! ## Where listed paths begin -/

mutual

/-- What is listed below an entry stands below it. -/
theorem path_of_mem_listing (e : Entry) (above : List String) {path : List String} {x : Entry}
    (mem : (path, x) ∈ e.listing above) : ∃ name below, path = above ++ name :: below := by
  match e with
  | .dir entries =>
    obtain ⟨name, below, same, _⟩ := path_of_mem_listings entries above mem
    exact ⟨name, below, same⟩
  | .file _ _ | .link _ => cases mem

/-- What is listed among named entries stands at or below one of them. -/
theorem path_of_mem_listings (entries : List (String × Entry)) (above : List String) {path : List String} {x : Entry}
    (mem : (path, x) ∈ listings above entries) :
    ∃ name below, path = above ++ name :: below ∧ name ∈ entries.map (·.1) := by
  match entries with
  | [] => cases mem
  | (name, e) :: rest =>
    rw [listings, List.cons_append, List.mem_cons, List.mem_append] at mem
    obtain same | inside | outside := mem
    · exact ⟨name, [], congrArg Prod.fst same, List.mem_cons_self⟩
    · obtain ⟨next, below, same⟩ := path_of_mem_listing e (above ++ [name]) inside
      exact ⟨name, next :: below, same.trans (List.append_assoc above [name] _), List.mem_cons_self⟩
    · obtain ⟨other, below, same, held⟩ := path_of_mem_listings rest above outside
      exact ⟨other, below, same, List.mem_cons_of_mem _ held⟩

end

/-! ## Trees in which names are apart -/

/-- No directory of the tree names two of its entries alike. -/
def NamesApart (tree : Entry) : Prop :=
  ∀ path entries, tree.at? path = some (.dir entries) → (entries.map (·.1)).Nodup

theorem at?_dir_cons : (Entry.dir entries).at? (name :: path) = (entries.lookup name).bind (·.at? path) := by
  rw [at?]
  cases entries.lookup name <;> rfl

theorem NamesApart.fresh (apart : (Entry.dir ((name, e) :: rest)).NamesApart) : name ∉ rest.map (·.1) :=
  (List.nodup_cons.mp (apart [] _ rfl)).1

theorem NamesApart.head (apart : (Entry.dir ((name, e) :: rest)).NamesApart) : e.NamesApart := by
  intro path entries found
  refine apart (name :: path) entries ?_
  rw [at?_dir_cons, List.lookup_cons_self, Option.bind_some, found]

/-- Past the first entry of a directory, its name leads nowhere, and other names lead where they did. -/
theorem NamesApart.at?_tail (apart : (Entry.dir ((name, e) :: rest)).NamesApart) {other : String} :
    (Entry.dir rest).at? (other :: path) = if other = name then none else (Entry.dir ((name, e) :: rest)).at? (other :: path) := by
  rw [at?_dir_cons, at?_dir_cons, lookup_cons_ite]
  split
  · rename_i same
    subst same
    have missing : rest.lookup other = none := List.lookup_eq_none_iff.mpr fun f mem =>
      bne_iff_ne.mpr fun same => apart.fresh (List.mem_map.mpr ⟨f, mem, same.symm⟩)
    rw [missing, Option.bind_none]
  · rfl

theorem NamesApart.tail (apart : (Entry.dir ((name, e) :: rest)).NamesApart) : (Entry.dir rest).NamesApart := by
  intro path entries found
  cases path with
  | nil =>
    cases found
    exact (List.nodup_cons.mp (apart [] _ rfl)).2
  | cons other path =>
    rw [apart.at?_tail] at found
    split at found
    · cases found
    · exact apart _ _ found

/-! ## The list and the paths -/

mutual

/-- **What is listed below an entry is what stands at the paths below it.** -/
theorem mem_listing_iff (e : Entry) (apart : e.NamesApart) (above path : List String) (x : Entry) :
    (path, x) ∈ e.listing above ↔ ∃ below, below ≠ [] ∧ path = above ++ below ∧ e.at? below = some x := by
  match e with
  | .dir entries => exact mem_listings_iff entries apart above path x
  | .file _ _ | .link _ =>
    refine ⟨nofun, ?_⟩
    rintro ⟨_ | ⟨name, below⟩, away, _, found⟩
    · exact absurd rfl away
    · cases found

/-- What is listed among named entries is what stands at the paths below their directory. -/
theorem mem_listings_iff (entries : List (String × Entry)) (apart : (Entry.dir entries).NamesApart)
    (above path : List String) (x : Entry) :
    (path, x) ∈ listings above entries ↔
      ∃ below, below ≠ [] ∧ path = above ++ below ∧ (Entry.dir entries).at? below = some x := by
  match entries with
  | [] =>
    refine ⟨nofun, ?_⟩
    rintro ⟨_ | ⟨name, below⟩, away, _, found⟩
    · exact absurd rfl away
    · cases found
  | (name, e) :: rest =>
    rw [listings, List.cons_append, List.mem_cons, List.mem_append, mem_listing_iff e apart.head,
      mem_listings_iff rest apart.tail, Prod.mk.injEq]
    constructor
    · rintro (⟨rfl, rfl⟩ | ⟨below, _, rfl, found⟩ | ⟨below, away, rfl, found⟩)
      · exact ⟨[name], nofun, rfl, by rw [at?_dir_cons, List.lookup_cons_self]; rfl⟩
      · refine ⟨name :: below, nofun, List.append_assoc .., ?_⟩
        rw [at?_dir_cons, List.lookup_cons_self, Option.bind_some, found]
      · obtain _ | ⟨other, below⟩ := below
        · exact absurd rfl away
        · rw [apart.at?_tail] at found
          split at found
          · cases found
          · exact ⟨other :: below, nofun, rfl, found⟩
    · rintro ⟨_ | ⟨other, below⟩, away, rfl, found⟩
      · exact absurd rfl away
      · by_cases same : other = name
        · subst same
          rw [at?_dir_cons, List.lookup_cons_self, Option.bind_some] at found
          obtain _ | ⟨next, below⟩ := below
          · rw [at?, Option.some.injEq] at found
            exact .inl ⟨rfl, found.symm⟩
          · exact .inr (.inl ⟨next :: below, nofun, (List.append_assoc above [other] _).symm, found⟩)
        · refine .inr (.inr ⟨other :: below, nofun, rfl, ?_⟩)
          rwa [apart.at?_tail, if_neg same]

end

mutual

/-- **No path is listed twice.** -/
theorem nodup_listing (e : Entry) (apart : e.NamesApart) (above : List String) : ((e.listing above).map (·.1)).Nodup := by
  match e with
  | .dir entries => exact nodup_listings entries apart above
  | .file _ _ | .link _ => exact List.nodup_nil

theorem nodup_listings (entries : List (String × Entry)) (apart : (Entry.dir entries).NamesApart) (above : List String) :
    ((listings above entries).map (·.1)).Nodup := by
  match entries with
  | [] => exact List.nodup_nil
  | (name, e) :: rest =>
    -- the entry, what stands below it, and what stands below the others begin differently
    have inside {path : List String} (mem : path ∈ (e.listing (above ++ [name])).map (·.1)) :
        ∃ next below, path = above ++ name :: next :: below := by
      obtain ⟨⟨_, x⟩, listed, rfl⟩ := List.mem_map.mp mem
      obtain ⟨next, below, same⟩ := path_of_mem_listing e _ listed
      exact ⟨next, below, same.trans (List.append_assoc above [name] _)⟩
    have outside {path : List String} (mem : path ∈ (listings above rest).map (·.1)) :
        ∃ other below, path = above ++ other :: below ∧ other ≠ name := by
      obtain ⟨⟨_, x⟩, listed, rfl⟩ := List.mem_map.mp mem
      obtain ⟨other, below, same, held⟩ := path_of_mem_listings rest above listed
      exact ⟨other, below, same, fun e => apart.fresh (e ▸ held)⟩
    rw [listings, List.cons_append, List.map_cons, List.map_append, List.nodup_cons, List.nodup_append]
    refine ⟨fun mem => ?_, nodup_listing e apart.head _, nodup_listings rest apart.tail above, fun p hp q hq same => ?_⟩
    · obtain mem | mem := List.mem_append.mp mem
      · obtain ⟨next, below, same⟩ := inside mem
        simp at same
      · obtain ⟨other, below, same, differs⟩ := outside mem
        simp only [List.append_cancel_left_eq, List.cons.injEq] at same
        exact differs same.1.symm
    · obtain ⟨next, below, rfl⟩ := inside hp
      obtain ⟨other, below', rfl, differs⟩ := outside hq
      simp only [List.append_cancel_left_eq, List.cons.injEq] at same
      exact differs same.1.symm

end

end GateRunner.Entry
