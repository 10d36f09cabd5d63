import GateRunner.Proofs.Check.Precedence
import GateRunner.Proofs.Graph.Levels

/-!
# Which of two checks comes out first

Dependencies come out first and level by level, which leaves open how the checks of one level stand. They need not stand
as they are listed. A check enters the queue when the last of its dependencies comes out, behind those that were released
earlier, so the order of a level goes by the order of the level below. The listing decides between checks that the same
one releases, and between those that wait for nothing.

**The law** (`listing_kept_iff`): the order is by release, and by the listing among checks that are released together; no
other order with dependencies first is so. Of two checks, then, the one that is listed first comes out first exactly when
it is not released after the other. Where it is, the two come out against the listing, and this happens also within one
level (`equal_depth_against_listing`).
-/

namespace GateRunner

/-! ## Release -/

section

variable {dependsOn : CheckId → CheckId → Prop} {listed out more order order' : List CheckId} {id d a b : CheckId}

/-- The lengths of the beginnings of an order that hold all that a check depends on. -/
def servingLengths (dependsOn : CheckId → CheckId → Prop) (order : List CheckId) (id : CheckId) : Set Nat :=
  {n | ∀ d, dependsOn id d → d ∈ order.take n}

/-- After how many checks of an order the last of the dependencies of a check is out. -/
noncomputable def release (dependsOn : CheckId → CheckId → Prop) (order : List CheckId) (id : CheckId) : Nat :=
  sInf (servingLengths dependsOn order id)

/-- One check is released before another, or together with it and is listed before it. -/
def GoesFirst (dependsOn : CheckId → CheckId → Prop) (listed order : List CheckId) (a b : CheckId) : Prop :=
  release dependsOn order a < release dependsOn order b ∨
    (release dependsOn order a = release dependsOn order b ∧ Precedes listed a b)

/-- An order of listed checks in which dependencies come first, and of two checks the one that goes first. -/
structure OrderedByRelease (dependsOn : CheckId → CheckId → Prop) (listed order : List CheckId) : Prop where
  all : order.Perm listed
  dependenciesFirst : ∀ before id after, order = before ++ id :: after → ∀ d, dependsOn id d → d ∈ before
  ties : order.Pairwise (GoesFirst dependsOn listed order)

theorem GoesFirst.asymm (first : GoesFirst dependsOn listed order a b) : ¬ GoesFirst dependsOn listed order b a := by
  rintro (later | ⟨same, after⟩)
  · rcases first with earlier | ⟨same, -⟩
    · exact Nat.lt_asymm earlier later
    · exact Nat.ne_of_lt later same.symm
  · rcases first with earlier | ⟨-, before⟩
    · exact Nat.ne_of_lt earlier same.symm
    · exact before.asymm after

section

variable (served : ∀ d, dependsOn id d → d ∈ out)
include served

theorem length_mem_servingLengths : out.length ∈ servingLengths dependsOn out id := fun d dep => by
  rw [List.take_length]
  exact served d dep

theorem isLeast_release : IsLeast (servingLengths dependsOn out id) (release dependsOn out id) :=
  ⟨Nat.sInf_mem ⟨_, length_mem_servingLengths served⟩, fun _ mem => Nat.sInf_le mem⟩

theorem release_le_length : release dependsOn out id ≤ out.length := Nat.sInf_le (length_mem_servingLengths served)

/-- What comes out later makes no difference to when a check was released. -/
theorem release_append (more : List CheckId) : release dependsOn (out ++ more) id = release dependsOn out id := by
  have same : ∀ n ≤ out.length, n ∈ servingLengths dependsOn (out ++ more) id ↔ n ∈ servingLengths dependsOn out id := by
    intro n le
    simp only [servingLengths, Set.mem_ofPred_eq, List.take_append_of_le_length le]
  have released := isLeast_release served
  have within := release_le_length served
  have soon : release dependsOn (out ++ more) id ≤ release dependsOn out id := Nat.sInf_le ((same _ within).mpr released.1)
  have served' : ∀ d, dependsOn id d → d ∈ out ++ more := fun d dep => List.mem_append_left _ (served d dep)
  exact Nat.le_antisymm soon (released.2 ((same _ (soon.trans within)).mp (isLeast_release served').1))

end

/-- The last of its dependencies releases a check. -/
theorem release_concat (dep : dependsOn id d) (fresh : d ∉ out) (served : ∀ d', dependsOn id d' → d' ∈ out ++ [d]) :
    release dependsOn (out ++ [d]) id = out.length + 1 := by
  have atMost := release_le_length served
  rw [List.length_append, List.length_singleton] at atMost
  refine Nat.le_antisymm atMost (Nat.lt_of_not_le fun early => fresh ?_)
  have mem := (isLeast_release served).1 d dep
  rw [List.take_append_of_le_length early] at mem
  exact List.mem_of_mem_take mem

theorem goesFirst_append (servedA : ∀ d, dependsOn a d → d ∈ out) (servedB : ∀ d, dependsOn b d → d ∈ out)
    (more : List CheckId) : GoesFirst dependsOn listed (out ++ more) a b ↔ GoesFirst dependsOn listed out a b := by
  simp only [GoesFirst, release_append servedA, release_append servedB]

/-- **At most one order is by release.** Two of them agree in their beginnings: what comes next in each has been released
by what they have in common. -/
theorem OrderedByRelease.unique (h : OrderedByRelease dependsOn listed order)
    (h' : OrderedByRelease dependsOn listed order') : order = order' := by
  have general : ∀ rest rest' out : List CheckId, order = out ++ rest → order' = out ++ rest' → rest = rest' := by
    intro rest
    induction rest with
    | nil =>
      intro rest' out split split'
      have length := h.all.length_eq.trans h'.all.length_eq.symm
      rw [split, split', List.length_append, List.length_append, List.length_nil] at length
      exact (List.length_eq_zero_iff.mp (Nat.add_left_cancel length).symm).symm
    | cons a rest ih =>
      intro rest' out split split'
      have both : (out ++ a :: rest).Perm (out ++ rest') := split ▸ split' ▸ h.all.trans h'.all.symm
      have same := (List.perm_append_left_iff out).mp both
      cases rest' with
      | nil => exact absurd same.length_eq (Nat.succ_ne_zero _)
      | cons b rest' =>
        by_cases e : a = b
        · subst e
          rw [ih rest' (out ++ [a]) (by rw [split, List.append_assoc]; rfl) (by rw [split', List.append_assoc]; rfl)]
        · -- each of the two would have to go before the other
          have servedA := h.dependenciesFirst out a rest split
          have servedB := h'.dependenciesFirst out b rest' split'
          have memB : b ∈ rest := (List.mem_cons.mp (same.mem_iff.mpr List.mem_cons_self)).resolve_left (Ne.symm e)
          have memA : a ∈ rest' := (List.mem_cons.mp (same.mem_iff.mp List.mem_cons_self)).resolve_left e
          have ties : (out ++ a :: rest).Pairwise (GoesFirst dependsOn listed (out ++ a :: rest)) := split ▸ h.ties
          have ties' : (out ++ b :: rest').Pairwise (GoesFirst dependsOn listed (out ++ b :: rest')) := split' ▸ h'.ties
          have first := List.rel_of_pairwise_cons (List.pairwise_append.mp ties).2.1 memB
          have first' := List.rel_of_pairwise_cons (List.pairwise_append.mp ties').2.1 memA
          rw [goesFirst_append servedA servedB] at first
          rw [goesFirst_append servedB servedA] at first'
          exact absurd first' first.asymm
  exact general order order' [] rfl rfl

/-- Of two checks, the one listed first comes out first exactly when it is not released after the other. -/
theorem OrderedByRelease.precedes_iff (h : OrderedByRelease dependsOn listed order) (before : Precedes listed a b)
    (mem : b ∈ listed) : Precedes order a b ↔ release dependsOn order a ≤ release dependsOn order b := by
  have memA := h.all.mem_iff.mpr before.mem
  constructor
  · intro first
    rcases first.rel h.ties (h.all.mem_iff.mpr mem) with earlier | ⟨same, -⟩
    · exact Nat.le_of_lt earlier
    · exact Nat.le_of_eq same
  · intro soon
    have apart : a ≠ b := fun e => Nat.lt_irrefl _ (e ▸ before)
    refine (precedes_or_precedes memA apart).resolve_right fun first => ?_
    rcases first.rel h.ties memA with earlier | ⟨-, after⟩
    · exact absurd soon (Nat.not_le_of_lt earlier)
    · exact before.asymm after

end

/-! ## The queue -/

namespace DependencyGraph

variable {g : DependencyGraph} {out queue : List CheckId} {table : InDegrees} {id : CheckId}

/-- What is out and what waits in the queue stands by its release. -/
def Tied (g : DependencyGraph) (out queue : List CheckId) : Prop :=
  (out ++ queue).Pairwise (GoesFirst g.DependsOn g.order out)

theorem Emitting.served (emitting : g.Emitting out table queue) {other : CheckId} (mem : other ∈ out ++ queue) :
    ∀ d, g.DependsOn other d → d ∈ out := waitsFor_eq_zero_iff.mp ((emitting.exact other).mp mem).2

/-- The checks that wait in the queue at first are released together, and stand as they are listed. -/
theorem tied_roots (distinct : g.order.Nodup) : g.Tied [] g.roots := by
  have together : ∀ id ∈ g.roots, release g.DependsOn [] id = 0 := fun id mem =>
    Nat.le_zero.mp (release_le_length ((emitting_roots g distinct).served mem))
  refine ((pairwise_precedes distinct).sublist List.filter_sublist).imp_of_mem fun ha hb before => .inr ⟨?_, before⟩
  rw [together _ ha, together _ hb]

namespace Tied

variable (proper : g.Proper)
include proper

/-- Taking a check out and putting at the end what it frees keeps the order of release. -/
theorem step (emitting : g.Emitting out table (id :: queue)) (h : g.Tied out (id :: queue)) :
    g.Tied (out ++ [id]) (queue ++ (table.relax (g.dependents id)).2) := by
  have later := emitting.step proper
  have freed := (emitting.relax_dependents proper).2
  have served : ∀ other ∈ out ++ id :: queue, ∀ d, g.DependsOn other d → d ∈ out := fun _ mem => emitting.served mem
  -- what was released before was released by what was out before
  have early : ∀ other ∈ out ++ id :: queue, release g.DependsOn (out ++ [id]) other ≤ out.length := by
    intro other mem
    rw [release_append (served other mem)]
    exact release_le_length (served other mem)
  have now : ∀ other ∈ (table.relax (g.dependents id)).2, release g.DependsOn (out ++ [id]) other = out.length + 1 := by
    intro other mem
    have dep : other ∈ g.dependents id := (List.mem_filter.mp (freed ▸ mem)).1
    exact release_concat (proper.mem_dependents.mp dep) emitting.head_not_mem
      (later.served (List.mem_append_right _ (List.mem_append_right _ mem)))
  have regroup : (out ++ [id]) ++ (queue ++ (table.relax (g.dependents id)).2) =
      (out ++ id :: queue) ++ (table.relax (g.dependents id)).2 := by simp
  rw [Tied, regroup]
  refine List.pairwise_append.mpr ⟨?_, ?_, fun a ha b hb => .inl ?_⟩
  · exact List.Pairwise.imp_of_mem (fun ha hb first => (goesFirst_append (served _ ha) (served _ hb) [id]).mpr first) h
  · have listed : (table.relax (g.dependents id)).2.Sublist g.order := by
      rw [freed]
      exact List.filter_sublist.trans (List.filter_sublist.map _)
    refine ((pairwise_precedes proper.distinct).sublist listed).imp_of_mem fun ha hb before => .inr ⟨?_, before⟩
    rw [now _ ha, now _ hb]
  · rw [now b hb]
    exact Nat.lt_succ_of_le (early a ha)

/-- What comes out of the queue stands by its release. -/
theorem emit (emitting : g.Emitting out table queue) (h : g.Tied out queue) :
    g.Tied (out ++ (g.emit table queue).1) [] := by
  fun_induction DependencyGraph.emit g table queue generalizing out with
  | case1 => simpa only [List.append_nil] using h
  | case2 table id queue relaxed sorted last heq =>
    rename_i ih
    have later := ih (emitting.step proper) (h.step proper emitting)
    rw [heq] at later
    simpa only [List.append_assoc, List.singleton_append] using later

end Tied

/-! ## The law -/

/-- **The order is by release, and what is listed first comes out first unless it is released later.** Dependence is the
one that is declared, among the checks that are present. The order is the only one with dependencies first in which checks
stand by their release, and by the listing where they are released together. -/
theorem listing_kept_iff {units : List BoundCheck} (distinct : (units.map (·.id)).Nodup)
    (accepted : ofAcyclic units = .ok g) :
    let dependsOn := WorkingSet.DependsOn units
    ∃ sorted, g.dependencyOrder = .ok sorted ∧
      (∀ order, OrderedByRelease dependsOn g.order order ↔ order = sorted) ∧
      (∀ id, IsLeast (servingLengths dependsOn sorted id) (release dependsOn sorted id)) ∧
      ∀ a b, Precedes g.order a b → b ∈ g.order →
        (Precedes sorted a b ↔ release dependsOn sorted a ≤ release dependsOn sorted b) := by
  obtain ⟨rfl, acyclic⟩ := (ofAcyclic_eq_ok_iff distinct).mp accepted
  have proper := proper_ofUnits distinct
  have ordered := (dependencyOrder_spec proper).resolve_right fun ⟨_, _, circle, _⟩ => circle acyclic
  have perm := perm_emit proper acyclic
  rw [← WorkingSet.dependsOn_ofUnits distinct]
  have ties := (tied_roots proper.distinct).emit proper (emitting_roots _ proper.distinct)
  rw [Tied, List.nil_append, List.append_nil] at ties
  have byRelease : OrderedByRelease _ _ _ := ⟨perm, (emit_roots proper).2, ties⟩
  refine ⟨_, ordered.2, fun order => ⟨fun other => other.unique byRelease, fun e => e ▸ byRelease⟩,
    fun id => isLeast_release fun d dep => perm.mem_iff.mpr (proper.mem_order_of_dependsOn dep), fun a b before mem => ?_⟩
  exact byRelease.precedes_iff before mem

end DependencyGraph

namespace SampleGate

/-- Documentation that waits for the types and tests that wait for linting, listed with what they wait for crosswise. -/
def crossed : List BoundCheck :=
  [script "docs" ["types"] true, script "tests" ["lint"] true, script "lint" [] true, script "types" [] true].map
    fun s => .ofCheck s.toCheck

theorem distinct_crossed : (crossed.map (·.id)).Nodup := by decide +kernel

theorem accepted_crossed : DependencyGraph.ofAcyclic crossed = .ok (.ofUnits crossed) := by decide +kernel

end SampleGate

namespace DependencyGraph

/-- The tests come out before the documentation, which is listed first, because linting comes out before the types. -/
theorem sampleGate_crossed :
    let dependsOn := WorkingSet.DependsOn SampleGate.crossed
    ∃ sorted, (ofUnits SampleGate.crossed).dependencyOrder = .ok sorted ∧
      sorted.map (·.name) = ["lint", "types", "tests", "docs"] ∧
      (∀ order, OrderedByRelease dependsOn (ofUnits SampleGate.crossed).order order ↔ order = sorted) ∧
      release dependsOn sorted ⟨"python", "tests"⟩ < release dependsOn sorted ⟨"python", "docs"⟩ := by
  obtain ⟨sorted, ordered, only, -, kept⟩ := listing_kept_iff SampleGate.distinct_crossed SampleGate.accepted_crossed
  have known : (ofUnits SampleGate.crossed).dependencyOrder =
      .ok [⟨"python", "lint"⟩, ⟨"python", "types"⟩, ⟨"python", "tests"⟩, ⟨"python", "docs"⟩] := by decide +kernel
  rw [ordered] at known
  cases known
  have late := (kept ⟨"python", "docs"⟩ ⟨"python", "tests"⟩ (by decide +kernel) (by decide +kernel)).not.mp (by decide)
  exact ⟨_, ordered, rfl, only, Nat.lt_of_not_le late⟩

/-- Both are of depth one, and stand the other way around than they are listed. -/
theorem equal_depth_against_listing :
    let units := SampleGate.crossed
    let docs : CheckId := ⟨"python", "docs"⟩
    let tests : CheckId := ⟨"python", "tests"⟩
    (units.map (·.id)).Nodup ∧ ofAcyclic units = .ok (ofUnits units) ∧
    depth (WorkingSet.DependsOn units) docs = depth (WorkingSet.DependsOn units) tests ∧
    Precedes (ofUnits units).order docs tests ∧
    ∃ sorted, (ofUnits units).dependencyOrder = .ok sorted ∧ Precedes sorted tests docs := by
  intro units docs tests
  have acyclic : (ofUnits units).Acyclic := ((ofAcyclic_eq_ok_iff SampleGate.distinct_crossed).mp SampleGate.accepted_crossed).2
  rw [← WorkingSet.dependsOn_ofUnits SampleGate.distinct_crossed]
  -- what each waits for waits for nothing itself
  have shallow : ∀ id d, (ofUnits units).dependencies id = [d] → (ofUnits units).dependencies d = [] →
      depth (ofUnits units).DependsOn id = 1 := by
    intro id d one none
    have only : ∀ other, (ofUnits units).DependsOn id other ↔ other = d := fun other => by
      rw [DependsOn, one, List.mem_singleton]
    have flat : depth (ofUnits units).DependsOn d = 0 := by
      refine Nat.le_zero.mp (depth_le acyclic fun other dep => ?_)
      rw [DependsOn, none] at dep
      exact absurd dep List.not_mem_nil
    have deepest : ∀ other, (ofUnits units).DependsOn id other →
        depth (ofUnits units).DependsOn other ≤ depth (ofUnits units).DependsOn d := fun other dep =>
      Nat.le_of_eq (congrArg _ ((only other).mp dep))
    rw [depth_eq_succ acyclic ((only d).mpr rfl) deepest, flat]
  have sorted : (ofUnits units).dependencyOrder =
      .ok [⟨"python", "lint"⟩, ⟨"python", "types"⟩, tests, docs] := by decide +kernel
  refine ⟨SampleGate.distinct_crossed, SampleGate.accepted_crossed, ?_, by decide +kernel, _, sorted, by decide⟩
  rw [shallow docs ⟨"python", "types"⟩ (by decide +kernel) (by decide +kernel),
    shallow tests ⟨"python", "lint"⟩ (by decide +kernel) (by decide +kernel)]

end DependencyGraph

end GateRunner
