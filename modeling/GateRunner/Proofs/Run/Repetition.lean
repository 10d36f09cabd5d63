import GateRunner.Proofs.Run.Sight

/-!
# How often an id starts and finishes in a run

Where makers keep to the ids that they are filed under, a run starts and finishes no check twice. A maker that looks at
its settings when it names its check may give an id that another check of the run has, and nothing takes one of the two
out: they are both on. Of those that apply, as many start as there are slots, and one result goes on record; those that
do not apply have a result each.

**The law** (`starts_and_completions_bounded`): this is all that can come twice. The ids that stand once among the checks
that are on start at most once and finish at most once, whatever becomes of the others.
-/

namespace GateRunner

variable {σ : Type}

/-- **How often an id starts and finishes is bounded by how often it is on.** It starts no more often than it stands
among the scheduled checks and than there are slots, and finishes once for each of its places among the checks that do
not apply, and once more if it is scheduled. -/
theorem starts_and_completions_bounded (w : Workers σ) (g : Registry) (limit : SlotLimit) (project : Project)
    (config : Configuration) (names : List String) (switches : RunSwitches) (world : σ) (id : CheckId) :
    let on := g.switchedOn config names
    let trace := (runNamed w g limit project config names switches world).trace
    let scheduled := ((on.filter fun i => i.check.applies project).map (·.id)).count id
    let starts := (trace.filterMap Event.started?).count id
    let completions := ((trace.filterMap Event.finished?).map (·.check)).count id
    starts ≤ min scheduled limit.count ∧
    completions ≤ ((on.filter fun i => !i.check.applies project).map (·.id)).count id + min scheduled 1 ∧
    ((on.map (·.id)).count id ≤ 1 → starts ≤ 1 ∧ completions ≤ 1) := by
  intro on trace scheduled starts completions
  obtain ⟨announced, _, _, seen, last, sight⟩ := exists_sight w g limit project config names switches world
  have order : (g.scheduledGraph project config names).order.count id = scheduled := by
    rw [order_scheduledGraph]
    rfl
  have starting : starts ≤ min scheduled limit.count := by
    rw [show starts = (seen.filterMap Event.started?).count id from congrArg (List.count id) sight.started?, ← order]
    exact sight.tally.starts id
  have executed : (last.results.map (·.check)).count id ≤ min scheduled 1 := by
    refine Nat.le_min.mpr ⟨?_, List.nodup_iff_count_le_one.mp sight.tally.once id⟩
    rw [← order]
    refine (sight.tally.once.subperm fun other mem => ?_).count_le id
    obtain ⟨r, hr, rfl⟩ := List.mem_map.mp mem
    exact sight.tally.listed r hr
  have completing : completions =
      ((on.filter fun i => !i.check.applies project).map (·.id)).count id + (last.results.map (·.check)).count id := by
    rw [show completions = _ from congrArg (fun rs => (rs.map (·.check)).count id) sight.finished?]
    simp only [List.map_append, List.count_append, map_check_notApplicable, on]
  have parted : scheduled + ((on.filter fun i => !i.check.applies project).map (·.id)).count id =
      (on.map (·.id)).count id := by
    rw [← ((List.filter_append_perm (fun i => i.check.applies project) on).map (·.id)).count_eq id, List.map_append,
      List.count_append]
  have finishing := completing ▸ Nat.add_le_add_left executed _
  refine ⟨starting, finishing, fun single => ⟨?_, ?_⟩⟩
  all_goals omega

namespace SampleGate

/-- Linting and typing; linting goes by the name that its settings give it. -/
def borrowing (applicable : Bool) : Registry :=
  ((Registry.ofScripts [script "types" [] applicable]).add fun settings =>
    (script ((settings.str? "name").getD "lint") [] applicable).toCheck).2

/-- The document in which linting is to go by the name of typing. -/
def renamed : Configuration :=
  ⟨.obj [("python", .obj [("gates", .obj [("lint", .obj [("name", .str "types")])])])]⟩

end SampleGate

/-- With two slots, linting that goes by the name of typing starts next to it, so one id starts twice; and where neither
applies, one id finishes twice. -/
theorem renamed_check_comes_twice :
    let trace (applicable : Bool) := (runNamed (.replay SampleGate.outcome) (SampleGate.borrowing applicable)
      ⟨2, by decide⟩ default SampleGate.renamed ["python:lint", "python:types"] ⟨false, false⟩ []).trace
    (trace true).filterMap Event.started? = [⟨"python", "types"⟩, ⟨"python", "types"⟩] ∧
      ((trace false).filterMap Event.finished?).map (·.check) = [⟨"python", "types"⟩, ⟨"python", "types"⟩] := by
  decide +kernel

end GateRunner
