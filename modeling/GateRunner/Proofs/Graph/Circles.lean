import GateRunner.Proofs.Graph.Emission
import GateRunner.Proofs.Schedule.Replay
import GateRunner.Proofs.WorkingSet.Switching

/-!
# What a circle holds back

A working set gets its graph when the dependencies that are declared and present have no circle. When they have one, a
check is held back if it lies on a circle and also if it only comes to one: it would wait for a check that never comes
out. The checks that are told are exactly these, said here of the declarations alone, as `LeadsToCircle`. A dependency
that is absent holds nothing back, one that is declared twice is no circle, and one on itself is.

**The law** (`circles_found_exactly`): a working set of distinct checks is refused exactly when it has a circle, with the
checks that lead to one, each once and in the order of the set.
-/

namespace GateRunner.WorkingSet

/-- A check rests on one that depends on itself, directly or through others. -/
def LeadsToCircle (units : List BoundCheck) (id : CheckId) : Prop :=
  ∃ c, RestsOn units id c ∧ Relation.TransGen (DependsOn units) c c

variable {units : List BoundCheck} (distinct : (units.map (·.id)).Nodup)
include distinct

/-- The graph of distinct checks says of each whether it leads to a circle as the declarations do. -/
theorem leadsToCircle_ofUnits_iff {id : CheckId} :
    (DependencyGraph.ofUnits units).LeadsToCircle id ↔ LeadsToCircle units id := by
  simp only [DependencyGraph.LeadsToCircle, DependencyGraph.Reaches, dependsOn_ofUnits distinct, LeadsToCircle, RestsOn]

/-- **A working set gets its graph exactly when it has no circle, and else is told the checks that lead to one.** -/
theorem circles_found_exactly :
    ((∃ graph, DependencyGraph.ofAcyclic units = .ok graph) ↔ ¬ HasCircle units) ∧
    ∀ e, DependencyGraph.ofAcyclic units = .error e →
      ∃ checks, e = .circle checks ∧ checks.Nodup ∧ checks.Sublist (units.map (·.id)) ∧
        ∀ id, id ∈ checks ↔ LeadsToCircle units id := by
  refine ⟨⟨?_, fun none => ?_⟩, fun e refused => ?_⟩
  · rintro ⟨graph, built⟩
    obtain ⟨rfl, acyclic⟩ := (DependencyGraph.ofAcyclic_eq_ok_iff distinct).mp built
    exact (acyclic_ofUnits_iff distinct).mp acyclic
  · exact ⟨_, (DependencyGraph.ofAcyclic_eq_ok_iff distinct).mpr ⟨rfl, (acyclic_ofUnits_iff distinct).mpr none⟩⟩
  · obtain ⟨checks, rfl, sub, exact⟩ := DependencyGraph.ofAcyclic_eq_error distinct refused
    exact ⟨checks, rfl, distinct.sublist sub, sub, fun id => (exact id).trans (leadsToCircle_ofUnits_iff distinct)⟩

end GateRunner.WorkingSet

namespace GateRunner.SampleGate

/-- Tests and types that wait for each other, documentation that waits for the tests, a format that waits for itself, and
two checks beside them. -/
def tangled : List BoundCheck :=
  [script "docs" ["ghost", "tests", "tests"] true, script "tests" ["types"] true, script "lint" [] true,
    script "types" ["lint", "tests"] true, script "format" ["format"] true, script "audit" ["lint"] true].map
      fun s => .ofCheck s.toCheck

theorem distinct_tangled : (tangled.map (·.id)).Nodup := by decide +kernel

end GateRunner.SampleGate

namespace GateRunner.WorkingSet

/-- Of the tangled checks, all are told but linting and the audit: the documentation lies on no circle but leads to one. -/
theorem sampleGate_tangled :
    (∃ checks, DependencyGraph.ofAcyclic SampleGate.tangled = .error (.circle checks) ∧
      checks.map (·.name) = ["docs", "tests", "types", "format"]) ∧
    LeadsToCircle SampleGate.tangled ⟨"python", "docs"⟩ ∧ ¬ LeadsToCircle SampleGate.tangled ⟨"python", "audit"⟩ := by
  have told : DependencyGraph.ofAcyclic SampleGate.tangled =
      .error (.circle [⟨"python", "docs"⟩, ⟨"python", "tests"⟩, ⟨"python", "types"⟩, ⟨"python", "format"⟩]) := by
    decide +kernel
  obtain ⟨checks, same, _, _, exact⟩ := (circles_found_exactly SampleGate.distinct_tangled).2 _ told
  cases same
  exact ⟨⟨_, told, rfl⟩, (exact _).mp (by decide), fun leads => absurd ((exact _).mpr leads) (by decide)⟩

end GateRunner.WorkingSet
