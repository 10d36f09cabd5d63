import GateRunner.Project.Scan
import GateRunner.Proofs.Project.Listing
import Mathlib.Algebra.Ring.Nat

/-!
# What a scan counts

A scan turns back at every directory that is skipped, so it never sees what is below. What it should count can be said
without a scan: of everything that is listed below the root, the regular files with one of the extensions that have no
skipped directory on the way to them. The way begins below the root and ends before the file, so neither the root's own
name nor the file's is on it (`SourceFile.ofListed?`).

The two agree because what is listed below a directory has the directory's name on its way: where a scan turns back
nothing would have been counted (`filterMap_listing_of_skipped`), and elsewhere a directory adds a name that is not
skipped (`sources_eq_filterMap_listing`).

**The law** (`scan_told_by_listing`): the extent of a project is the number of those files, and the lines of those that
can be read and are text. There are such files exactly if the number is positive, and extensions of which no list has one
of the other add up.
-/

namespace GateRunner

/-! ## The files that count -/

/-- The regular file at a listed place, if no directory on the way to it is skipped. -/
def SourceFile.ofListed? : List String × Entry → Option SourceFile
  | (path, .file bytes _) => if ∀ name ∈ path.dropLast, name ∉ skippedDirectories then some ⟨path, bytes⟩ else none
  | _ => none

/-- The files below an entry that count. -/
def Entry.filesWith (extensions : List String) (e : Entry) : List SourceFile :=
  ((e.listing []).filterMap SourceFile.ofListed?).filter (·.hasExtension extensions)

open SourceFile (ofListed?)

theorem SourceFile.ofListed?_eq_some_iff {path : List String} {e : Entry} {f : SourceFile} :
    ofListed? (path, e) = some f ↔
      f.path = path ∧ (∃ status, e = .file f.bytes status) ∧ ∀ name ∈ path.dropLast, name ∉ skippedDirectories := by
  obtain ⟨path', bytes'⟩ := f
  cases e with
  | file bytes status =>
    by_cases free : ∀ name ∈ path.dropLast, name ∉ skippedDirectories
    · rw [ofListed?, if_pos free, Option.some.injEq, SourceFile.mk.injEq]
      constructor
      · rintro ⟨rfl, rfl⟩
        exact ⟨rfl, ⟨status, rfl⟩, free⟩
      · rintro ⟨rfl, ⟨_, same⟩, _⟩
        cases same
        exact ⟨rfl, rfl⟩
    · rw [ofListed?, if_neg free]
      exact ⟨nofun, fun h => absurd h.2.2 free⟩
  | dir entries => exact ⟨nofun, fun ⟨_, ⟨_, same⟩, _⟩ => by cases same⟩
  | link target => exact ⟨nofun, fun ⟨_, ⟨_, same⟩, _⟩ => by cases same⟩

namespace Entry

/-- Below a directory that is skipped nothing counts. -/
theorem filterMap_listing_of_skipped {above : List String} {name : String} (on : name ∈ above)
    (skipped : name ∈ skippedDirectories) (e : Entry) : (e.listing above).filterMap ofListed? = [] := by
  refine List.filterMap_eq_nil_iff.mpr fun ⟨path, x⟩ mem => ?_
  obtain ⟨next, below, rfl⟩ := path_of_mem_listing e above mem
  cases counted : ofListed? (above ++ next :: below, x) with
  | none => rfl
  | some f =>
    obtain ⟨_, _, free⟩ := SourceFile.ofListed?_eq_some_iff.mp counted
    rw [List.dropLast_append_of_ne_nil (List.cons_ne_nil _ _)] at free
    exact absurd skipped (free name (List.mem_append_left _ on))

mutual

/-- **A scan sees the regular files that are listed with no skipped directory on the way.** -/
theorem sources_eq_filterMap_listing (e : Entry) (above : List String) (free : ∀ name ∈ above, name ∉ skippedDirectories) :
    e.sources above = (e.listing above).filterMap ofListed? := by
  match e with
  | .dir entries => exact sourcesAmong_eq_filterMap_listings entries above free
  | .file _ _ | .link _ => rfl

theorem sourcesAmong_eq_filterMap_listings (entries : List (String × Entry)) (above : List String)
    (free : ∀ name ∈ above, name ∉ skippedDirectories) :
    sourcesAmong above entries = (listings above entries).filterMap ofListed? := by
  match entries with
  | [] => rfl
  | (name, e) :: rest =>
    have others := sourcesAmong_eq_filterMap_listings rest above free
    rw [listings, List.cons_append, List.filterMap_cons, List.filterMap_append, ← others]
    match e with
    | .file bytes status =>
      have counted : ofListed? (above ++ [name], .file bytes status) = some ⟨above ++ [name], bytes⟩ :=
        SourceFile.ofListed?_eq_some_iff.mpr ⟨rfl, ⟨status, rfl⟩, by rwa [List.dropLast_concat]⟩
      rw [counted]
      rfl
    | .link _ => rfl
    | .dir entries =>
      show sourcesAmong above ((name, .dir entries) :: rest) = _ ++ sourcesAmong above rest
      rw [sourcesAmong]
      split
      · rename_i skipped
        rw [filterMap_listing_of_skipped (List.mem_append_right above (List.mem_singleton_self name)) skipped, List.nil_append]
      · rename_i kept
        have free' : ∀ other ∈ above ++ [name], other ∉ skippedDirectories := fun other mem =>
          (List.mem_append.mp mem).elim (free other) fun own => List.mem_singleton.mp own ▸ kept
        rw [sources_eq_filterMap_listing (.dir entries) (above ++ [name]) free']

end

/-- Each file that counts is counted once, and what counts can be told from the paths of the tree. -/
theorem filesWith_spec {e : Entry} (apart : e.NamesApart) (extensions : List String) :
    ((e.filesWith extensions).map (·.path)).Nodup ∧
      ∀ f : SourceFile, f ∈ e.filesWith extensions ↔
        f.path ≠ [] ∧ (∃ status, e.at? f.path = some (.file f.bytes status)) ∧ f.hasExtension extensions = true ∧
          ∀ name ∈ f.path.dropLast, name ∉ skippedDirectories := by
  constructor
  · have paths (listed : List (List String × Entry)) :
        ((listed.filterMap ofListed?).map (·.path)).Sublist (listed.map (·.1)) := by
      induction listed with
      | nil => exact .slnil
      | cons l rest ih =>
        cases counted : ofListed? l with
        | none =>
          rw [List.filterMap_cons_none counted]
          exact ih.cons _
        | some f =>
          rw [List.filterMap_cons_some counted, List.map_cons, List.map_cons,
            (SourceFile.ofListed?_eq_some_iff.mp counted).1]
          exact ih.cons_cons _
    exact ((nodup_listing e apart []).sublist (paths _)).sublist (List.filter_sublist.map _)
  · intro f
    simp only [filesWith, List.mem_filter, List.mem_filterMap, Prod.exists, SourceFile.ofListed?_eq_some_iff,
      mem_listing_iff e apart, List.nil_append]
    constructor
    · rintro ⟨⟨_, x, ⟨below, away, rfl, found⟩, rfl, ⟨status, rfl⟩, free⟩, ext⟩
      exact ⟨away, ⟨status, found⟩, ext, free⟩
    · rintro ⟨away, ⟨status, found⟩, ext, free⟩
      exact ⟨⟨f.path, _, ⟨f.path, away, rfl, found⟩, rfl, ⟨status, rfl⟩, free⟩, ext⟩

end Entry

/-! ## Measuring -/

namespace Extent

theorem add_eq (a b : Extent) : a + b = ⟨a.files + b.files, a.lines + b.lines⟩ := rfl

theorem add_assoc (a b c : Extent) : a + b + c = a + (b + c) := by simp only [add_eq, Nat.add_assoc]

theorem zero_add (a : Extent) : Extent.zero + a = a := by simp only [add_eq, zero, Nat.zero_add]

end Extent

/-- The number of some files, and the lines of those that can be read. -/
def SourceFile.tally (opens : List String → Bool) (counted : List SourceFile) : Extent :=
  ⟨counted.length, ((counted.filterMap (SourceFile.text? opens)).map lineCount).sum⟩

namespace SourceFile

variable {opens : List String → Bool}

theorem tally_append (counted more : List SourceFile) : tally opens (counted ++ more) = tally opens counted + tally opens more := by
  simp only [Extent.add_eq, tally, List.length_append, List.filterMap_append, List.map_append, List.sum_append]

theorem tally_cons (f : SourceFile) (rest : List SourceFile) : tally opens (f :: rest) = f.extent opens + tally opens rest := by
  have one : tally opens [f] = f.extent opens := by
    unfold tally extent lines
    cases read : f.text? opens <;> simp [read]
  rw [← one, ← tally_append, List.singleton_append]

theorem tally_perm {counted others : List SourceFile} (perm : counted.Perm others) : tally opens counted = tally opens others := by
  rw [tally, tally, perm.length_eq, ((perm.filterMap _).map _).sum_nat]

end SourceFile

open SourceFile (tally)

section

variable (opens : List String → Bool) (extensions : List String)

theorem measure_eq_tally (files : List SourceFile) :
    measure opens extensions files = tally opens (files.filter (·.hasExtension extensions)) := by
  have general (counted : List SourceFile) (total : Extent) :
      counted.foldl (fun total f => total + f.extent opens) total = total + tally opens counted := by
    induction counted generalizing total with
    | nil => rfl
    | cons f rest ih => rw [List.foldl_cons, ih, SourceFile.tally_cons, Extent.add_assoc]
  rw [measure, general, Extent.zero_add]

/-- Looking for one file finds one exactly if some are counted. -/
theorem anyWithExtension_iff (files : List SourceFile) :
    anyWithExtension extensions files = true ↔ 0 < (measure opens extensions files).files := by
  rw [measure_eq_tally, tally, anyWithExtension, List.length_pos_iff_exists_mem, List.any_eq_true]
  simp only [List.mem_filter]

variable {extensions}

/-- A file has one extension, so what has one of either list is counted for that list. -/
theorem measure_append {others : List String} (apart : ∀ e ∈ extensions, e ∉ others) (files : List SourceFile) :
    measure opens (extensions ++ others) files = measure opens extensions files + measure opens others files := by
  have either (f : SourceFile) :
      f.hasExtension (extensions ++ others) = (f.hasExtension extensions || f.hasExtension others) := by
    unfold SourceFile.hasExtension
    cases SourceFile.extensionOf f.name <;> simp
  have notBoth (f : SourceFile) (second : f.hasExtension others = true) : f.hasExtension extensions = false := by
    unfold SourceFile.hasExtension at second ⊢
    cases named : SourceFile.extensionOf f.name with
    | none => rfl
    | some e =>
      simp only [named, decide_eq_true_eq] at second
      exact decide_eq_false fun first => apart e first second
  -- of the files that count for both lists, take those of the first list apart
  let both := files.filter (·.hasExtension (extensions ++ others))
  have first : both.filter (·.hasExtension extensions) = files.filter (·.hasExtension extensions) := by
    rw [List.filter_filter]
    refine List.filter_congr fun f _ => ?_
    rw [either]
    cases f.hasExtension extensions <;> simp
  have second : both.filter (! ·.hasExtension extensions) = files.filter (·.hasExtension others) := by
    rw [List.filter_filter]
    refine List.filter_congr fun f _ => ?_
    rw [either]
    cases h : f.hasExtension others with
    | true => simp [notBoth f h]
    | false => simp
  calc measure opens (extensions ++ others) files
    _ = tally opens both := measure_eq_tally ..
    _ = tally opens (both.filter (·.hasExtension extensions) ++ both.filter (! ·.hasExtension extensions)) :=
      SourceFile.tally_perm (List.filter_append_perm _ _).symm
    _ = measure opens extensions files + measure opens others files := by
      rw [SourceFile.tally_append, first, second, measure_eq_tally, measure_eq_tally]

end

/-! ## Scanning a project -/

/-- Looking at what a path leads to itself, one finds the same as following it, or a link. -/
theorem Disk.walk_itself (disk : Disk) (links : Nat) (here names : List String) :
    disk.walk false links here names = disk.walk true links here names ∨
      ∃ place target, disk.walk false links here names = .ok (.taken place (.link target)) := by
  fun_induction disk.walk false links here names with
  -- a link at the very end is where the two part
  | case9 => exact .inr ⟨_, _, rfl⟩
  | case4 _ _ name rest entries found stays ih =>
    refine ih.imp_left fun same => ?_
    rw [same, walk.eq_def disk true _ _ (name :: rest)]
    simp only [found, stays, if_true]
  | case5 _ _ rest entries found ups ih =>
    refine ih.imp_left fun same => ?_
    rw [same, walk.eq_def disk true _ _ (".." :: rest)]
    simp only [found, ups, if_true, if_false]
  | case11 _ name rest entries found stays ups long target held last links ih =>
    simp only [dite_eq_ite] at ih
    refine ih.imp_left fun same => ?_
    rw [same, walk.eq_def disk true _ _ (name :: rest)]
    simp [found, stays, ups, long, held]
  | case12 _ _ name rest entries found stays ups long e other held ih =>
    refine ih.imp_left fun same => ?_
    rw [same, walk.eq_def disk true _ _ (name :: rest)]
    simp [found, stays, ups, long, held]
  | case1 | case2 | case3 | case6 | case7 | case8 | case10 | case13 =>
    left
    rw [walk.eq_def disk true]
    simp [*]

namespace Project

/-- A scan begins with the directory that the root leads to. -/
theorem sources_of_leads {p : Project} {entries : List (String × Entry)} (leads : p.disk.entry? p.root = .ok (.dir entries)) :
    p.sources = (Entry.dir entries).sources [] := by
  have itself : p.disk.locateItself p.root = p.disk.locate p.root ∨
      ∃ place target, p.disk.locateItself p.root = .ok (.taken place (.link target)) := by
    unfold Disk.locateItself Disk.locate Disk.locateWith
    split
    · exact .inl rfl
    · exact p.disk.walk_itself ..
  unfold sources
  obtain same | ⟨place, target, link⟩ := itself
  · rw [same]
    rw [Disk.entry?] at leads
    split at leads
    · cases leads
      rename_i found
      rw [found]
    · cases leads
    · cases leads
  · rw [link]
    simp only [leads]

/-- **A scan counts the regular files that are listed with no skipped directory on the way.** They are counted with the
lines of those that open and are text. Where no directory names two entries alike, these are the files that stand at the
paths of the tree, each once. -/
theorem scan_told_by_listing {p : Project} {entries : List (String × Entry)}
    (leads : p.disk.entry? p.root = .ok (.dir entries)) (opens : List String → Bool) (extensions : List String) :
    let tree := Entry.dir entries
    let files := tree.filesWith extensions
    p.measureReading opens extensions =
        ⟨files.length, ((files.filterMap (SourceFile.text? opens)).map lineCount).sum⟩ ∧
      (p.hasSources extensions = true ↔ 0 < (p.measureReading opens extensions).files) ∧
      (∀ others, (∀ e ∈ extensions, e ∉ others) →
        p.measureReading opens (extensions ++ others) = p.measureReading opens extensions + p.measureReading opens others) ∧
      (tree.NamesApart → (files.map (·.path)).Nodup ∧
        ∀ f : SourceFile, f ∈ files ↔
          f.path ≠ [] ∧ (∃ status, tree.at? f.path = some (.file f.bytes status)) ∧ f.hasExtension extensions = true ∧
            ∀ name ∈ f.path.dropLast, name ∉ skippedDirectories) := by
  refine ⟨?_, anyWithExtension_iff opens extensions p.sources, fun others apart => measure_append opens apart p.sources,
    fun apart => Entry.filesWith_spec apart extensions⟩
  rw [measureReading, measure_eq_tally, sources_of_leads leads, Entry.sources_eq_filterMap_listing _ [] nofun]
  rfl

/-- A tree below a directory that is named like those that are skipped: a file of two lines, a link, a directory with a
file that is no text, one that does not open and a skipped directory, and a file that is named like one. -/
def sampleEntries : List (String × Entry) :=
  [("main.py", .file [97, 10, 98, 10] .plain), ("again.py", .link "main.py"),
    ("src", .dir [("odd.py", .file [255] .plain), ("locked.py", .file [99, 10] .plain),
      ("dist", .dir [("gen", .dir [("made.py", .file [100, 10] .plain)])]), ("app.js", .file [101] .plain)]),
    ("target", .file [] .plain)]

/-- The project with that tree. -/
def sample : Project := ⟨{ top := .dir [(".hg", .dir sampleEntries)], changes := 0 }, "/.hg"⟩

theorem sample_leads : sample.disk.entry? sample.root = .ok (.dir sampleEntries) := by
  have names : splitPath "/.hg" = ["", ".hg"] := by decide
  have short : ¬ Disk.pathLimit < "/.hg".utf8ByteSize := by decide
  have short' : ¬ Disk.nameLimit < ".hg".utf8ByteSize := by decide
  have found : List.lookup ".hg" [(".hg", Entry.dir sampleEntries)] = some (.dir sampleEntries) := rfl
  simp [Disk.entry?, Disk.locate, Disk.locateWith, Disk.walk, sample, names, short, short', Entry.at?, found]

/-- Of the sample three files of one extension count, with the lines of one, and one of the other. -/
theorem sample_scanned :
    sample.disk.entry? sample.root = .ok (.dir sampleEntries) ∧
      sample.measureReading (· ≠ ["src", "locked.py"]) ["py"] = ⟨3, 2⟩ ∧ sample.hasSources ["py"] = true ∧
      sample.measureReading (· ≠ ["src", "locked.py"]) ["py", "js"] = ⟨4, 3⟩ := by
  obtain ⟨py, any, both, -⟩ := scan_told_by_listing sample_leads (· ≠ ["src", "locked.py"]) ["py"]
  obtain ⟨js, -⟩ := scan_told_by_listing sample_leads (· ≠ ["src", "locked.py"]) ["js"]
  have three : sample.measureReading (· ≠ ["src", "locked.py"]) ["py"] = ⟨3, 2⟩ := py.trans (by decide)
  have one : sample.measureReading (· ≠ ["src", "locked.py"]) ["js"] = ⟨1, 1⟩ := js.trans (by decide)
  refine ⟨sample_leads, three, any.mpr (three ▸ by decide), ?_⟩
  rw [show ["py", "js"] = ["py"] ++ ["js"] from rfl, both ["js"] (by decide), three, one]
  rfl

end Project

end GateRunner
