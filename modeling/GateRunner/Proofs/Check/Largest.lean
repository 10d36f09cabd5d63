import GateRunner.Check.Summary
import GateRunner.Proofs.Check.Occurrences
import Mathlib.Data.String.Basic
import Mathlib.Order.Bounds.Basic

/-!
# The largest extents

Extents are combined part by part, so the larger of two need be neither of them. It does not matter in which order they
are combined, how they are grouped, or whether one is met again; `Extent.IsLargest` says what comes out without naming
any order: each part is the greatest of that part.

A summary combines twice, the extents of each category in a table and then the entries of the table. The table is kept
sorted by category, and `Tabulates` is what it holds once some results are noted: for each category the largest of what
was reported in it, and over all its entries the largest of what was reported at all. Noting one more result keeps this
(`Tabulates.note`), so the two stages give what one would.

**The law** (`extents_gathered`): the extents of a summary are the largest that its results report, for each category and
in all. They depend on nothing but which results there are, and those of one list after another are combined.
-/

namespace GateRunner

namespace Extent

/-- An extent is the largest of some others part by part. -/
structure IsLargest (top : Extent) (extents : Set Extent) : Prop where
  files : IsGreatest (Extent.files '' extents) top.files
  lines : IsGreatest (Extent.lines '' extents) top.lines

theorem IsLargest.unique {a b : Extent} {extents : Set Extent} (first : a.IsLargest extents) (second : b.IsLargest extents) :
    a = b := by
  obtain ⟨files, lines⟩ := a
  obtain ⟨files', lines'⟩ := b
  rw [Extent.mk.injEq]
  exact ⟨first.files.unique second.files, first.lines.unique second.lines⟩

instance : Std.Associative Extent.max where
  assoc a b c := by simp only [Extent.max, Nat.max_assoc]

instance : Std.Commutative Extent.max where
  comm a b := by simp only [Extent.max, Nat.max_comm]

/-- The larger of two extents, either of which may be missing. -/
def larger : Option Extent → Option Extent → Option Extent := Option.merge Extent.max

theorem larger_assoc (a b c : Option Extent) : larger (larger a b) c = larger a (larger b c) :=
  (Option.associative_merge Extent.max).assoc a b c

theorem larger_comm (a b : Option Extent) : larger a b = larger b a := (Option.commutative_merge Extent.max).comm a b

@[simp] theorem none_larger (a : Option Extent) : larger none a = a := by cases a <;> rfl

/-- The largest of a list of extents, if there are any. -/
def largest : List Extent → Option Extent
  | [] => none
  | e :: rest => larger (some e) (largest rest)

theorem largest_append (extents more : List Extent) : largest (extents ++ more) = larger (largest extents) (largest more) := by
  induction extents with
  | nil => rw [List.nil_append, largest, none_larger]
  | cons e rest ih => rw [List.cons_append, largest, ih, largest, larger_assoc]

theorem largest_cons (e : Extent) (rest : List Extent) : largest (e :: rest) = some (rest.foldl Extent.max e) := by
  induction rest generalizing e with
  | nil => rfl
  | cons next rest ih =>
    calc largest (e :: next :: rest)
      _ = larger (larger (some e) (some next)) (largest rest) := (larger_assoc ..).symm
      _ = largest (e.max next :: rest) := rfl
      _ = some ((next :: rest).foldl Extent.max e) := ih _

/-- With one extent more, the larger of it and the largest before is the largest. -/
theorem IsLargest.insert {top : Extent} {extents : Set Extent} (h : top.IsLargest extents) (e : Extent) :
    (e.max top).IsLargest (insert e extents) := by
  constructor
  · rw [Set.image_insert_eq]
    exact h.files.insert e.files
  · rw [Set.image_insert_eq]
    exact h.lines.insert e.lines

theorem isLargest_singleton (e : Extent) : e.IsLargest {e} := by
  constructor <;> rw [Set.image_singleton] <;> exact isGreatest_singleton

/-- Every list that is not empty has a largest extent, and `largest` gives it. -/
theorem isLargest_of_cons (e : Extent) (rest : List Extent) :
    ∃ top, largest (e :: rest) = some top ∧ top.IsLargest {a | a ∈ e :: rest} := by
  induction rest generalizing e with
  | nil => exact ⟨e, rfl, by simpa using isLargest_singleton e⟩
  | cons next rest ih =>
    obtain ⟨top, found, isLargest⟩ := ih next
    refine ⟨e.max top, by rw [largest, found]; rfl, ?_⟩
    have := isLargest.insert e
    simpa only [List.mem_cons, Set.insert_def, Set.mem_ofPred_eq] using this

theorem largest_eq_none_iff {extents : List Extent} : largest extents = none ↔ extents = [] := by
  cases extents with
  | nil => exact iff_of_true rfl rfl
  | cons e rest => simp only [largest_cons, reduceCtorEq]

theorem largest_eq_some_iff {extents : List Extent} {top : Extent} :
    largest extents = some top ↔ top.IsLargest {a | a ∈ extents} := by
  cases extents with
  | nil =>
    refine ⟨nofun, fun h => ?_⟩
    obtain ⟨e, mem, _⟩ := h.files.1
    cases mem
  | cons e rest =>
    obtain ⟨top', found, isLargest⟩ := isLargest_of_cons e rest
    rw [found, Option.some.injEq]
    exact ⟨fun same => same ▸ isLargest, fun h => isLargest.unique h⟩

/-- The largest extent depends on nothing but which extents there are. -/
theorem largest_congr {extents others : List Extent} (same : ∀ e, e ∈ others ↔ e ∈ extents) :
    largest others = largest extents := by
  have sets : {e | e ∈ others} = {e | e ∈ extents} := Set.ext same
  refine Option.ext fun top => ?_
  simp only [largest_eq_some_iff, sets]

end Extent

open Extent

/-! ## The table -/

namespace ExtentTable

variable {table : ExtentTable} {category name : String} {extent : Extent}

/-- The entries stand in order of their categories, of which none is repeated. -/
def Sorted (table : ExtentTable) : Prop := table.Pairwise fun e f => e.1 < f.1

theorem Sorted.nodup (sorted : table.Sorted) : (table.map (·.1)).Nodup := by
  rw [List.Nodup, List.pairwise_map]
  exact sorted.imp fun before => before.ne

theorem mem_record {e : String × Extent} (mem : e ∈ table.record category extent) :
    e.1 = category ∨ ∃ f ∈ table, f.1 = e.1 := by
  induction table with
  | nil => exact .inl (congrArg Prod.fst (List.mem_singleton.mp mem))
  | cons f rest ih =>
    obtain ⟨key, held⟩ := f
    unfold record at mem
    split at mem
    · rename_i same
      obtain rfl | mem := List.mem_cons.mp mem
      · exact .inl same.symm
      · exact .inr ⟨e, List.mem_cons_of_mem _ mem, rfl⟩
    · split at mem
      · obtain rfl | mem := List.mem_cons.mp mem
        · exact .inl rfl
        · exact .inr ⟨e, mem, rfl⟩
      · obtain rfl | mem := List.mem_cons.mp mem
        · exact .inr ⟨_, List.mem_cons_self, rfl⟩
        · exact (ih mem).imp_right fun ⟨f, hf, same⟩ => ⟨f, List.mem_cons_of_mem _ hf, same⟩

theorem Sorted.record (sorted : table.Sorted) (category : String) (extent : Extent) :
    (table.record category extent).Sorted := by
  induction table with
  | nil => exact List.pairwise_singleton _ _
  | cons f rest ih =>
    obtain ⟨key, held⟩ := f
    obtain ⟨first, sorted'⟩ := List.pairwise_cons.mp sorted
    unfold ExtentTable.record
    split
    · exact List.pairwise_cons.mpr ⟨first, sorted'⟩
    · rename_i apart
      split
      · rename_i before
        refine List.pairwise_cons.mpr ⟨fun e mem => ?_, sorted⟩
        obtain rfl | mem := List.mem_cons.mp mem
        · exact before
        · exact before.trans (first e mem)
      · rename_i notBefore
        have after : key < category := lt_of_le_of_ne (not_lt.mp notBefore) (Ne.symm apart)
        refine List.pairwise_cons.mpr ⟨fun e mem => ?_, ih sorted'⟩
        obtain same | ⟨f, hf, same⟩ := mem_record mem
        · exact same ▸ after
        · exact same ▸ first f hf

/-- Recording an extent changes the entry of its category, and no other. -/
theorem lookup_record (sorted : table.Sorted) : (table.record category extent).lookup name =
    if name = category then larger (table.lookup category) (some extent) else table.lookup name := by
  induction table with
  | nil => exact lookup_cons_ite ..
  | cons f rest ih =>
    obtain ⟨key, held⟩ := f
    obtain ⟨first, sorted'⟩ := List.pairwise_cons.mp sorted
    unfold record
    split
    · rename_i same
      subst same
      simp only [lookup_cons_ite, if_true]
      split <;> rfl
    · rename_i apart
      split
      · rename_i before
        -- the category stands before all that are in the table
        have missing : rest.lookup category = none := List.lookup_eq_none_iff.mpr fun e mem =>
          bne_iff_ne.mpr (before.trans (first e mem)).ne
        simp only [lookup_cons_ite, if_neg apart, missing, none_larger]
      · simp only [lookup_cons_ite, ih sorted', if_neg apart]
        by_cases h : name = category
        · simp only [h, if_true, if_neg apart]
        · simp only [h, if_false]

/-- The largest of all entries takes in what is recorded, wherever it goes. -/
theorem largest_record (table : ExtentTable) (category : String) (extent : Extent) :
    largest ((table.record category extent).map (·.2)) = larger (largest (table.map (·.2))) (some extent) := by
  induction table with
  | nil => rfl
  | cons f rest ih =>
    obtain ⟨key, held⟩ := f
    unfold record
    split
    · calc largest ((key, held.max extent) :: rest |>.map (·.2))
        _ = larger (larger (some held) (some extent)) (largest (rest.map (·.2))) := rfl
        _ = larger (larger (some held) (largest (rest.map (·.2)))) (some extent) := by
          rw [larger_assoc, larger_comm (some extent), larger_assoc]
    · split
      · exact larger_comm ..
      · rw [List.map_cons, largest, ih, List.map_cons, largest, larger_assoc]

theorem Sorted.lookup_eq_some_iff (sorted : table.Sorted) :
    table.lookup category = some extent ↔ (category, extent) ∈ table :=
  ⟨mem_of_lookup, lookup_eq_some_of_mem sorted.nodup⟩

/-- Sorted tables in which the same is found are the same. -/
theorem Sorted.eq_of_lookup {other : ExtentTable} (sorted : table.Sorted) (sorted' : other.Sorted)
    (same : ∀ category, table.lookup category = other.lookup category) : table = other := by
  have perm : table.Perm other := (List.perm_ext_iff_of_nodup sorted.nodup.of_map sorted'.nodup.of_map).mpr fun e => by
    rw [← sorted.lookup_eq_some_iff, ← sorted'.lookup_eq_some_iff, same]
  exact perm.eq_of_pairwise (fun _ _ _ _ before after => absurd after before.asymm) sorted sorted'

end ExtentTable

/-! ## The summary -/

namespace RunSummary

/-- The extents that some results report. -/
def reported (results : List CheckResult) : List Extent := results.filterMap (·.extent)

/-- The extents that some results report in a category. -/
def reportedIn (category : String) (results : List CheckResult) : List Extent :=
  reported (results.filter fun r => r.check.category = category)

/-- The table with the extent of a result, if it has one. -/
def noteExtent (table : ExtentTable) (r : CheckResult) : ExtentTable :=
  match r.extent with
  | none => table
  | some extent => table.record r.check.category extent

theorem extentByCategory_eq_foldl (s : RunSummary) : s.extentByCategory = s.results.foldl noteExtent [] := rfl

theorem totalExtent_eq_largest (s : RunSummary) : s.totalExtent = largest (s.extentByCategory.map (·.2)) := by
  unfold totalExtent
  cases s.extentByCategory.map (·.2) with
  | nil => rfl
  | cons first rest => exact (largest_cons first rest).symm

theorem mem_reported {results : List CheckResult} {extent : Extent} :
    extent ∈ reported results ↔ ∃ r ∈ results, r.extent = some extent := List.mem_filterMap

theorem mem_reportedIn {category : String} {results : List CheckResult} {extent : Extent} :
    extent ∈ reportedIn category results ↔
      ∃ r ∈ results, r.check.category = category ∧ r.extent = some extent := by
  simp only [reportedIn, mem_reported, List.mem_filter, decide_eq_true_eq, and_assoc]

/-- What the table holds once some results are noted. -/
structure Tabulates (table : ExtentTable) (results : List CheckResult) : Prop where
  sorted : table.Sorted
  held : ∀ category, table.lookup category = largest (reportedIn category results)
  whole : largest (table.map (·.2)) = largest (reported results)

/-- Noting one more result keeps what the table holds. -/
theorem Tabulates.note {table : ExtentTable} {results : List CheckResult} (h : Tabulates table results) (r : CheckResult) :
    Tabulates (noteExtent table r) (results ++ [r]) := by
  unfold noteExtent
  cases reports : r.extent with
  | none =>
    have same : reported (results ++ [r]) = reported results := by
      simp only [reported, List.filterMap_append, List.filterMap_cons, reports, List.filterMap_nil, List.append_nil]
    have sameIn (category : String) : reportedIn category (results ++ [r]) = reportedIn category results := by
      by_cases within : r.check.category = category <;>
        simp [reportedIn, reported, List.filter_append, within, reports]
    exact ⟨h.sorted, fun category => sameIn category ▸ h.held category, same ▸ h.whole⟩
  | some extent =>
    have more : reported (results ++ [r]) = reported results ++ [extent] := by
      simp [reported, reports]
    have moreIn (category : String) : reportedIn category (results ++ [r]) =
        if category = r.check.category then reportedIn category results ++ [extent]
        else reportedIn category results := by
      by_cases within : category = r.check.category
      · simp [reportedIn, reported, List.filter_append, within, reports]
      · simp [reportedIn, reported, List.filter_append, within, Ne.symm within]
    refine ⟨h.sorted.record _ _, fun category => ?_, ?_⟩
    · rw [ExtentTable.lookup_record h.sorted, moreIn]
      split
      · rename_i within
        rw [largest_append, h.held, ← within]
        rfl
      · exact h.held category
    · rw [ExtentTable.largest_record, h.whole, more, largest_append]
      rfl

/-- **What the table of a summary holds.** -/
theorem tabulates (s : RunSummary) : Tabulates s.extentByCategory s.results := by
  rw [extentByCategory_eq_foldl]
  induction s.results using List.reverseRecOn with
  | nil => exact ⟨.nil, fun _ => rfl, rfl⟩
  | append_singleton results r ih =>
    rw [List.foldl_concat]
    exact ih.note r

theorem totalExtent_eq (s : RunSummary) : s.totalExtent = largest (reported s.results) :=
  s.totalExtent_eq_largest.trans s.tabulates.whole

/-- The extents of a summary are the largest that its results report. -/
structure GathersExtents (s : RunSummary) : Prop where
  /-- A category has one entry at most, -/
  sorted : s.extentByCategory.Pairwise fun e f => e.1 < f.1
  /-- and one exactly if an extent is reported in it. -/
  listed : ∀ category, category ∈ s.extentByCategory.map (·.1) ↔
    ∃ r ∈ s.results, r.check.category = category ∧ r.extent ≠ none
  /-- Its extent is the largest of those. -/
  largestIn : ∀ category extent, (category, extent) ∈ s.extentByCategory ↔
    extent.IsLargest {e | ∃ r ∈ s.results, r.check.category = category ∧ r.extent = some e}
  /-- The extent of all is the largest that is reported in any category. -/
  largest : ∀ extent, s.totalExtent = some extent ↔ extent.IsLargest {e | ∃ r ∈ s.results, r.extent = some e}
  missing : s.totalExtent = none ↔ ∀ r ∈ s.results, r.extent = none

theorem gathersExtents (s : RunSummary) : s.GathersExtents where
  sorted := s.tabulates.sorted
  listed category := by
    have found : category ∈ s.extentByCategory.map (·.1) ↔ s.extentByCategory.lookup category ≠ none := by
      simp [List.lookup_eq_none_iff]
    rw [found, s.tabulates.held, Ne, largest_eq_none_iff, List.eq_nil_iff_forall_not_mem]
    simp only [mem_reportedIn, not_forall, not_not]
    constructor
    · rintro ⟨e, r, mem, within, reports⟩
      exact ⟨r, mem, within, by simp [reports]⟩
    · rintro ⟨r, mem, within, reports⟩
      obtain ⟨e, reports⟩ := Option.ne_none_iff_exists'.mp reports
      exact ⟨e, r, mem, within, reports⟩
  largestIn category extent := by
    rw [← s.tabulates.sorted.lookup_eq_some_iff, s.tabulates.held, largest_eq_some_iff]
    simp only [mem_reportedIn]
  largest extent := by
    rw [totalExtent_eq, largest_eq_some_iff]
    simp only [mem_reported]
  missing := by
    rw [totalExtent_eq, largest_eq_none_iff, reported, List.filterMap_eq_nil_iff]

/-- **The extents of a summary are the largest that its results report**, for each category and in all. They are the same
for other results in another order and with repetitions, and those of two lists together are the larger of both. -/
theorem extents_gathered (s : RunSummary) :
    s.GathersExtents ∧
      (∀ other : RunSummary, (∀ r, r ∈ other.results ↔ r ∈ s.results) →
        other.extentByCategory = s.extentByCategory ∧ other.totalExtent = s.totalExtent) ∧
      (∀ more whole : RunSummary, whole.results = s.results ++ more.results →
        whole.totalExtent = Option.merge Extent.max s.totalExtent more.totalExtent) := by
  refine ⟨s.gathersExtents, fun other same => ⟨?_, ?_⟩, fun more whole parts => ?_⟩
  · refine other.tabulates.sorted.eq_of_lookup s.tabulates.sorted fun category => ?_
    rw [other.tabulates.held, s.tabulates.held]
    exact largest_congr fun e => by simp only [mem_reportedIn, same]
  · rw [totalExtent_eq, totalExtent_eq]
    exact largest_congr fun e => by simp only [mem_reported, same]
  · rw [totalExtent_eq, totalExtent_eq, totalExtent_eq, parts, reported, List.filterMap_append]
    exact largest_append ..

end RunSummary
end GateRunner
