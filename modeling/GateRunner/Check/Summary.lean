import GateRunner.Check.Result

/-!
# Summaries of runs

A summary counts the results of a run by verdict and keeps them in order. `ofResults` counts; a summary read from
elsewhere keeps the counts it came with, and whether the run succeeded follows the counts.

The extent of a category is the largest reported in it, part by part, and the extent of the whole run is the largest
over all categories.
-/

namespace GateRunner

/-- The results of a run and their counts. -/
structure RunSummary where
  total : Nat
  passed : Nat
  failed : Nat
  warned : Nat
  skipped : Nat
  notApplicable : Nat
  errors : Nat
  duration : Duration
  results : List CheckResult
deriving DecidableEq, Repr

/-- Extents by category, in order of the categories' names. -/
abbrev ExtentTable := List (String × Extent)

/-- The table with one more extent: the larger of it and the extent that the category has already. -/
def ExtentTable.record (category : String) (extent : Extent) : ExtentTable → ExtentTable
  | [] => [(category, extent)]
  | (name, held) :: rest =>
    if category = name then (name, held.max extent) :: rest
    else if category < name then (category, extent) :: (name, held) :: rest
    else (name, held) :: ExtentTable.record category extent rest

namespace RunSummary

/-- The summary of a list of results, whose order is kept. -/
def ofResults (results : List CheckResult) (duration : Duration) : RunSummary :=
  let count (v : Verdict) := results.countP (fun r => r.verdict = v)
  { total := results.length, passed := count .passed, failed := count .failed, warned := count .warned,
    skipped := count .skipped, notApplicable := count .notApplicable, errors := count .error, duration, results }

/-- The summary of a run without results. -/
def empty (duration : Duration) : RunSummary := ofResults [] duration

/-- Whether nothing failed and nothing was in error. -/
def succeeded (s : RunSummary) : Bool := s.failed = 0 && s.errors = 0

/-- The count for a verdict. -/
def count (s : RunSummary) : Verdict → Nat
  | .passed => s.passed
  | .failed => s.failed
  | .warned => s.warned
  | .skipped => s.skipped
  | .notApplicable => s.notApplicable
  | .error => s.errors

/-- The first result of a check. -/
def result? (s : RunSummary) (id : CheckId) : Option CheckResult := s.results.find? (fun r => r.check = id)

/-- The results that keep the run from passing. -/
def blocking (s : RunSummary) : List CheckResult := s.results.filter (fun r => r.verdict.isBlocking)

/-- The largest extent reported in each category. -/
def extentByCategory (s : RunSummary) : ExtentTable :=
  s.results.foldl (fun table r =>
    match r.extent with
    | none => table
    | some extent => table.record r.check.category extent) []

/-- The largest extent over all categories, none if no result reports one. -/
def totalExtent (s : RunSummary) : Option Extent :=
  match s.extentByCategory.map (·.2) with
  | [] => none
  | first :: rest => some (rest.foldl Extent.max first)

end RunSummary

end GateRunner
