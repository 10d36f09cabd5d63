import GateRunner.Proofs.Schedule.Replay
import GateRunner.Proofs.WorkingSet.Switching
import Mathlib.Logic.Function.Iterate

/-!
# Why checks are off

The list of what is off begins with the checks that the configuration switches off, in the order of the working set
(`offIds_offByConfig`). The passes over the set put the others behind them, each with a dependency as its reason that
stands before it in the list. There are no more passes than checks, around a circle too (`iterate_pass`), and no check is
put off twice (`nodup_offAll`).

What is left on is what was on, in its order, and has no dependency among what is off. So looking at it again puts
nothing off (`splitSwitched_again`).

**The law** (`splitSwitched_upward_closure`): what is off are the checks that rest on one that the configuration switches
off, all with their reasons, and the others are on.
-/

namespace GateRunner.WorkingSet

variable {config : Configuration} {units : List BoundCheck}

/-! ## What the configuration switches off -/

/-- What the configuration switches off has the reason that it gives. -/
theorem reason_of_mem_offByConfig {d : SwitchedOff} (hd : d ∈ offByConfig config units) :
    config.switchOf d.id = .off d.reason := by
  obtain ⟨i, _, found⟩ := List.mem_filterMap.mp hd
  split at found
  · cases found
  · rename_i reason off
    cases found
    exact off

/-! ## The passes -/

/-- What is off after one more pass. -/
def pass (units : List BoundCheck) (off : List SwitchedOff) : List SwitchedOff :=
  off ++ offByDependency (offIds off) units

/-- **There are no more passes that add something than checks that are on, and one more adds nothing.** -/
theorem iterate_pass (units : List BoundCheck) (off : List SwitchedOff) :
    (∃ n ≤ countOn (offIds off) units, (pass units)^[n] off = offAll units off) ∧
      pass units (offAll units off) = offAll units off := by
  fun_induction offAll units off with
  | case1 off new none =>
    refine ⟨⟨0, Nat.zero_le _, rfl⟩, ?_⟩
    show off ++ new = off
    rw [none, List.append_nil]
  | case2 off new some ih =>
    obtain ⟨⟨n, bound, passes⟩, last⟩ := ih
    have fewer : countOn (offIds (off ++ new)) units < countOn (offIds off) units := by
      rw [offIds_append]
      exact countOn_offByDependency_lt some
    exact ⟨⟨n + 1, by omega, passes⟩, last⟩

theorem nodup_offByDependency (ids : List CheckId) (units : List BoundCheck) :
    (offIds (offByDependency ids units)).Nodup := by
  induction units generalizing ids with
  | nil => exact List.nodup_nil
  | cons i rest ih =>
    unfold offByDependency
    split
    · exact ih ids
    · split
      · refine List.nodup_cons.mpr ⟨fun again => ?_, ih (i.id :: ids)⟩
        obtain ⟨d, hd, same⟩ := List.mem_map.mp again
        exact (mem_offByDependency hd).1 (List.mem_cons.mpr (.inl same))
      · exact ih ids

/-- No check is put off twice. -/
theorem nodup_offAll {off : List SwitchedOff} (distinct : (offIds off).Nodup) : (offIds (offAll units off)).Nodup := by
  fun_induction offAll units off with
  | case1 => exact distinct
  | case2 off new _ ih =>
    refine ih ?_
    rw [offIds_append]
    refine List.nodup_append.mpr ⟨distinct, nodup_offByDependency _ _, fun id hid other hother same => ?_⟩
    obtain ⟨d, hd, rfl⟩ := List.mem_map.mp hother
    exact (mem_offByDependency hd).1 (same ▸ hid)

/-! ## What is on -/

/-- What is off is in the working set. -/
theorem offIds_subset : offIds (splitSwitched config units).2 ⊆ units.map (·.id) := by
  intro id hid
  obtain ⟨root, present, _, rests⟩ := mem_offIds_iff.mp hid
  exact rests.mem present

theorem mem_splitSwitched {i : BoundCheck} :
    i ∈ (splitSwitched config units).1 ↔ i ∈ units ∧ i.id ∉ offIds (splitSwitched config units).2 := by
  simp [splitSwitched]

/-- A check that is on declares no dependency on one that is off. -/
theorem not_off_of_on {i : BoundCheck} (on : i ∈ (splitSwitched config units).1) {d : CheckId}
    (declared : d ∈ i.dependencies) : d ∉ offIds (splitSwitched config units).2 := by
  obtain ⟨hi, notOff⟩ := mem_splitSwitched.mp on
  exact fun gone => notOff (offAll_closed _ _ i hi d declared gone)

/-- Looking again at what is on puts nothing off. -/
theorem splitSwitched_again :
    splitSwitched config (splitSwitched config units).1 = ((splitSwitched config units).1, []) := by
  have none : offIds (splitSwitched config (splitSwitched config units).1).2 = [] := by
    refine List.eq_nil_iff_forall_not_mem.mpr fun id hid => ?_
    obtain ⟨root, present, off, _⟩ := mem_offIds_iff.mp hid
    obtain ⟨i, hi, rfl⟩ := List.mem_map.mp present
    obtain ⟨member, notOff⟩ := mem_splitSwitched.mp hi
    exact notOff (mem_offIds_iff.mpr ⟨i.id, List.mem_map.mpr ⟨i, member, rfl⟩, off, .refl⟩)
  have empty : (splitSwitched config (splitSwitched config units).1).2 = [] := List.map_eq_nil_iff.mp none
  refine Prod.ext ?_ empty
  refine List.filter_eq_self.mpr fun i _ => ?_
  rw [show offAll _ _ = _ from empty]
  rfl

/-! ## The law -/

variable (distinct : (units.map (·.id)).Nodup)
include distinct

theorem nodup_offIds (config : Configuration) : (offIds (splitSwitched config units).2).Nodup := by
  refine nodup_offAll ?_
  rw [offIds_offByConfig]
  exact distinct.filter _

/-- Every check is either on or off. -/
theorem perm_on_off (config : Configuration) :
    ((splitSwitched config units).1.map (·.id) ++ offIds (splitSwitched config units).2).Perm (units.map (·.id)) := by
  have on : ((splitSwitched config units).1.map (·.id)).Nodup := distinct.sublist (List.filter_sublist.map _)
  have apart : ∀ id ∈ (splitSwitched config units).1.map (·.id), ∀ other ∈ offIds (splitSwitched config units).2,
      id ≠ other := by
    rintro id hid other hother rfl
    obtain ⟨i, hi, rfl⟩ := List.mem_map.mp hid
    exact (mem_splitSwitched.mp hi).2 hother
  refine (List.perm_ext_iff_of_nodup (List.nodup_append.mpr ⟨on, nodup_offIds distinct config, apart⟩) distinct).mpr ?_
  intro id
  rw [List.mem_append]
  constructor
  · rintro (hid | hid)
    · exact List.map_subset _ (List.filter_subset_self _) hid
    · exact offIds_subset hid
  · intro hid
    obtain ⟨i, hi, rfl⟩ := List.mem_map.mp hid
    by_cases off : i.id ∈ offIds (splitSwitched config units).2
    · exact .inr off
    · exact .inl (List.mem_map.mpr ⟨i, mem_splitSwitched.mpr ⟨hi, off⟩, rfl⟩)

/-- **What is off are the checks that rest on one that the configuration switches off, each with its reason.** After at
most one pass for each check another pass adds nothing. Every check is on or off, once; what is on keeps its order, and
none of it declares a dependency on what is off, so looking at it again puts nothing off. The list of what is off begins
with what the configuration switches off, in its order, and each other entry names a declared dependency that stands
before it. -/
theorem splitSwitched_upward_closure (config : Configuration) :
    let on := (splitSwitched config units).1
    let off := (splitSwitched config units).2
    (∃ n ≤ units.length, (pass units)^[n] (offByConfig config units) = off ∧ pass units off = off) ∧
    (on.map (·.id) ++ offIds off).Perm (units.map (·.id)) ∧
    on.Sublist units ∧
    (offIds off).Nodup ∧
    (∀ id, id ∈ offIds off ↔ ∃ root ∈ units.map (·.id), config.SwitchesOff root ∧ RestsOn units id root) ∧
    (∀ i ∈ on, ∀ d ∈ i.dependencies, d ∉ offIds off) ∧
    (∃ listed later, off = listed ++ later ∧
      offIds listed = (units.map (·.id)).filter (fun id => config.switchOf id ≠ .on) ∧
      (∀ d ∈ listed, config.switchOf d.id = .off d.reason) ∧
      ∀ before d after, later = before ++ d :: after →
        ∃ i ∈ units, i.id = d.id ∧ ∃ dependency ∈ i.dependencies, dependency ∈ offIds (listed ++ before) ∧
          d.reason = "dependency " ++ dependency.written ++ " is disabled") ∧
    splitSwitched config on = (on, []) := by
  intro on off
  refine ⟨?_, ?_, ?_, ?_, ?_, ?_, ?_, ?_⟩
  · obtain ⟨⟨n, few, passes⟩, last⟩ := iterate_pass units (offByConfig config units)
    have bound : n ≤ units.length := Nat.le_trans few List.countP_le_length
    exact ⟨n, bound, passes, last⟩
  · exact perm_on_off distinct config
  · exact List.filter_sublist
  · exact nodup_offIds distinct config
  · intro id
    exact mem_offIds_iff
  · intro i hi d declared
    exact not_off_of_on hi declared
  · obtain ⟨later, parts, grounded⟩ := exists_later units (offByConfig config units)
    refine ⟨offByConfig config units, later, parts, offIds_offByConfig config units, ?_, grounded⟩
    intro d hd
    exact reason_of_mem_offByConfig hd
  · exact splitSwitched_again

end GateRunner.WorkingSet

namespace GateRunner.SampleGate

/-- The document that sets nothing but that the format is not checked. -/
def unformatted : Configuration := ⟨.obj [("disabled_gates", .arr [.str "python:format"])]⟩

end GateRunner.SampleGate

namespace GateRunner.WorkingSet

/-- Without the format only the audit is left. The checks are listed backwards here, so that it takes two passes. -/
theorem sampleGate_unformatted :
    let split := splitSwitched SampleGate.unformatted SampleGate.units.reverse
    split.2.map (fun d => (d.id.name, d.reason)) =
      [("format", "python:format is in disabled_gates list"), ("types", "dependency python:format is disabled"),
        ("lint", "dependency python:format is disabled"), ("docs", "dependency python:types is disabled"),
        ("tests", "dependency python:lint is disabled")] ∧
    split.1.map (·.id.name) = ["audit"] ∧
    (∃ root, SampleGate.unformatted.SwitchesOff root ∧ RestsOn SampleGate.units.reverse ⟨"python", "tests"⟩ root) ∧
    splitSwitched SampleGate.unformatted split.1 = (split.1, []) := by
  intro split
  obtain ⟨_, _, _, _, off_iff, _, _, again⟩ :=
    splitSwitched_upward_closure SampleGate.distinct_reversed SampleGate.unformatted
  have testsOff : ⟨"python", "tests"⟩ ∈ offIds split.2 := by decide +kernel
  obtain ⟨root, _, off, rests⟩ := (off_iff _).mp testsOff
  exact ⟨by decide +kernel, by decide +kernel, ⟨root, off, rests⟩, again⟩

end GateRunner.WorkingSet
