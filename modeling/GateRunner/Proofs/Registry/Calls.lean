import GateRunner.Proofs.Registry.Entries
import Mathlib.Data.List.Induction

/-!
# Histories of calls

Four calls change a registry: a check is registered, with its own profile or a given one, an id is taken out, a group is
named. What is registered for an id after any history of calls is what the last call that speaks of the id says of it
(`current`), and likewise for groups (`members?`). This is told from the calls alone, and the registry agrees
(`find?_after`, `group?_after`).

The order is told from the calls too. One id stands before another when at some time the other was not registered, and the
first was and has been ever since (`EnteredBefore`). The invariant is that the ids stand so; it is kept because a call
takes ids out or puts one that was missing at the end, and nothing else (`Call.ids_apply`).
-/

namespace GateRunner.Registry

/-- A call that changes a registry. -/
inductive Call
  | add (maker : CheckMaker)
  | addAs (maker : CheckMaker) (profile : CheckProfile)
  | remove (id : CheckId)
  | nameGroup (name : String) (members : List CheckId)

namespace Call

/-- The registry after a call. -/
def apply (g : Registry) : Call → Registry
  | .add maker => (g.add maker).2
  | .addAs maker profile => (g.addAs maker profile).2
  | .remove id => (g.remove id).2
  | .nameGroup name members => g.nameGroup name members

/-- What a call registers. The id is the one of the check that is made for no settings; so is the profile, if none is
given. -/
def registration? : Call → Option Registration
  | .add maker => some ⟨maker, (BoundCheck.ofCheck (maker .empty)).profile⟩
  | .addAs maker profile => some ⟨maker, { profile with id := (maker .empty).id }⟩
  | .remove _ | .nameGroup _ _ => none

/-- What a call says of an id: nothing, that it is not registered, or what is registered for it. -/
def tells (id : CheckId) : Call → Option (Option Registration)
  | .remove other => if other = id then some none else none
  | call =>
    match call.registration? with
    | some r => if r.id = id then some (some r) else none
    | none => none

/-- What a call says of a group. -/
def tellsOfGroup (name : String) : Call → Option (List CheckId)
  | .nameGroup other members => if other = name then some members else none
  | _ => none

/-- Whether a call is about checks, not about a group. -/
def isOfCheck : Call → Bool
  | .nameGroup _ _ => false
  | _ => true

variable {g : Registry} {call : Call}

/-- A call registers something, takes an id out or names a group. -/
theorem cases_apply (call : Call) :
    (∃ r, call.isOfCheck = true ∧ (∀ g, call.apply g = g.insert r) ∧
      ∀ id, call.tells id = if r.id = id then some (some r) else none) ∨
    (∃ id, call = .remove id) ∨ ∃ name members, call = .nameGroup name members := by
  cases call with
  | add maker => exact .inl ⟨_, rfl, fun _ => rfl, fun _ => rfl⟩
  | addAs maker profile => exact .inl ⟨_, rfl, fun _ => rfl, fun _ => rfl⟩
  | remove id => exact .inr (.inl ⟨id, rfl⟩)
  | nameGroup name members => exact .inr (.inr ⟨name, members, rfl⟩)

theorem find?_apply (g : Registry) (call : Call) (id : CheckId) :
    (call.apply g).find? id = (call.tells id).getD (g.find? id) := by
  obtain ⟨r, -, applies, tells⟩ | ⟨other, rfl⟩ | ⟨name, members, rfl⟩ := call.cases_apply
  · rw [applies, tells, find?_insert]
    split <;> rfl
  · rw [apply, find?_remove, tells]
    split <;> rfl
  · rfl

theorem group?_apply (g : Registry) (call : Call) (name : String) :
    (call.apply g).group? name = (call.tellsOfGroup name).or (g.group? name) := by
  cases call with
  | nameGroup other members =>
    rw [apply, group?_nameGroup, tellsOfGroup]
    split <;> rfl
  | _ => rfl

/-- **A call takes ids out, or puts one that was missing at the end.** The others stay where they are. -/
theorem ids_apply (g : Registry) (call : Call) :
    (call.apply g).ids.Sublist g.ids ∨ ∃ id, id ∉ g.ids ∧ (call.apply g).ids = g.ids ++ [id] := by
  obtain ⟨r, -, applies, -⟩ | ⟨id, rfl⟩ | ⟨name, members, rfl⟩ := call.cases_apply
  · rw [applies, ids_insert]
    split
    · exact .inl (List.Sublist.refl _)
    · rename_i missing
      exact .inr ⟨r.id, missing, rfl⟩
  · rw [apply, ids_remove]
    exact .inl List.filter_sublist
  · exact .inl (List.Sublist.refl _)

theorem distinct_apply (distinct : g.Distinct) (call : Call) : (call.apply g).Distinct := by
  obtain taken | ⟨id, missing, put⟩ := call.ids_apply g
  · exact distinct.sublist taken
  · unfold Distinct
    rw [put]
    exact List.nodup_append.mpr ⟨distinct, List.nodup_singleton _, fun a ha b hb same =>
      missing (List.mem_singleton.mp hb ▸ same ▸ ha)⟩

/-- What is registered and what the groups are is each changed by calls of its own. -/
theorem apply_eq (g : Registry) (call : Call) :
    (call.isOfCheck = true ∧ (call.apply g).groups = g.groups ∧
      ∀ g' : Registry, g'.entries = g.entries → (call.apply g').entries = (call.apply g).entries) ∨
    (call.isOfCheck = false ∧ (call.apply g).entries = g.entries ∧
      ∀ g' : Registry, g'.groups = g.groups → (call.apply g').groups = (call.apply g).groups) := by
  obtain ⟨r, ofCheck, applies, -⟩ | ⟨id, rfl⟩ | ⟨name, members, rfl⟩ := call.cases_apply
  · simp only [applies]
    exact .inl ⟨ofCheck, rfl, fun g' same => congrArg (insertInto r) same⟩
  · exact .inl ⟨rfl, rfl, fun g' same => congrArg (List.filter fun r : Registration => r.id ≠ id) same⟩
  · exact .inr ⟨rfl, rfl, fun g' same => congrArg (bindGroup name members) same⟩

end Call

/-- The registry after a history of calls, from the first to the last. -/
def after (history : List Call) : Registry := history.foldl Call.apply empty

/-- What the last call that speaks of an id says of it. -/
def current (history : List Call) (id : CheckId) : Option Registration := (history.reverse.findSome? (·.tells id)).join

/-- What the last call that speaks of a group says of it. -/
def members? (history : List Call) (name : String) : Option (List CheckId) :=
  history.reverse.findSome? (·.tellsOfGroup name)

/-- At some time the second id was not registered, and the first one was and has been ever since. -/
def EnteredBefore (history : List Call) (first second : CheckId) : Prop :=
  ∃ early late, history = early ++ late ∧ current early second = none ∧
    ∀ part, part <+: late → (current (early ++ part) first).isSome = true

variable {history : List Call} {id first second : CheckId}

theorem after_concat (history : List Call) (call : Call) : after (history ++ [call]) = call.apply (after history) :=
  List.foldl_concat ..

theorem current_concat (history : List Call) (call : Call) (id : CheckId) :
    current (history ++ [call]) id = (call.tells id).getD (current history id) := by
  rw [current, List.reverse_concat, List.findSome?_cons]
  cases call.tells id <;> rfl

/-- **What is registered for an id is what the last call that speaks of it says.** -/
theorem find?_after (history : List Call) (id : CheckId) : (after history).find? id = current history id := by
  induction history using List.reverseRecOn with
  | nil => rfl
  | append_singleton history call ih => rw [after_concat, Call.find?_apply, current_concat, ih]

/-- **A name stands for the members that it was last given.** -/
theorem group?_after (history : List Call) (name : String) : (after history).group? name = members? history name := by
  induction history using List.reverseRecOn with
  | nil => rfl
  | append_singleton history call ih =>
    rw [after_concat, Call.group?_apply, ih, members?, members?, List.reverse_concat, List.findSome?_cons]
    cases call.tellsOfGroup name <;> rfl

theorem distinct_after (history : List Call) : (after history).Distinct := by
  induction history using List.reverseRecOn with
  | nil => exact List.nodup_nil
  | append_singleton history call ih => exact after_concat history call ▸ Call.distinct_apply ih call

theorem isSome_current : (current history id).isSome = true ↔ id ∈ (after history).ids := by
  rw [← find?_after, isSome_find?]

/-- One call more leaves an order as it is, if the first of the two stays registered. -/
theorem EnteredBefore.concat (before : EnteredBefore history first second) {call : Call}
    (stays : (current (history ++ [call]) first).isSome = true) : EnteredBefore (history ++ [call]) first second := by
  obtain ⟨early, late, rfl, missing, since⟩ := before
  refine ⟨early, late ++ [call], List.append_assoc .., missing, fun part start => ?_⟩
  obtain rfl | start := List.prefix_concat_iff.mp start
  · exact List.append_assoc early late [call] ▸ stays
  · exact since part start

/-- Of two ids at most one was entered before the other, so there is one order only in which they can stand. -/
theorem EnteredBefore.asymm (before : EnteredBefore history first second) : ¬ EnteredBefore history second first := by
  obtain ⟨early, late, parts, missing, since⟩ := before
  rintro ⟨early', late', parts', missing', since'⟩
  obtain ⟨part, rfl⟩ | ⟨part, rfl⟩ := List.prefix_or_prefix_of_prefix ⟨late, parts.symm⟩ ⟨late', parts'.symm⟩
  · have start : part <+: late := ⟨late', by
      rw [parts', List.append_assoc] at parts
      exact List.append_cancel_left parts⟩
    exact absurd missing' (Option.isSome_iff_ne_none.mp (since part start))
  · have start : part <+: late' := ⟨late, by
      rw [parts, List.append_assoc] at parts'
      exact List.append_cancel_left parts'⟩
    exact absurd missing (Option.isSome_iff_ne_none.mp (since' part start))

/-- **The ids stand in the order in which they were entered.** -/
theorem pairwise_ids_after (history : List Call) : (after history).ids.Pairwise (EnteredBefore history) := by
  induction history using List.reverseRecOn with
  | nil => exact .nil
  | append_singleton history call ih =>
    have stays {id : CheckId} (held : id ∈ (call.apply (after history)).ids) :
        (current (history ++ [call]) id).isSome = true := isSome_current.mpr (after_concat history call ▸ held)
    rw [after_concat]
    obtain taken | ⟨new, missing, put⟩ := call.ids_apply (after history)
    · exact (ih.sublist taken).imp_of_mem fun held _ before => before.concat (stays held)
    · rw [put] at stays ⊢
      refine List.pairwise_append.mpr ⟨ih.imp_of_mem fun held _ before =>
        before.concat (stays (List.mem_append_left _ held)), List.pairwise_singleton _ _, fun id held other last => ?_⟩
      obtain rfl := List.mem_singleton.mp last
      refine ⟨history, [call], rfl, Option.not_isSome_iff_eq_none.mp fun held => missing (isSome_current.mp held),
        fun part start => ?_⟩
      obtain rfl | ⟨rest, rfl, none⟩ := List.prefix_cons_iff.mp start
      · rw [List.append_nil]
        exact isSome_current.mpr held
      · rw [List.prefix_nil.mp none]
        exact stays (List.mem_append_left _ held)

/-- **Calls about groups change nothing about checks, nor calls about checks any group.** -/
theorem after_eq_of_parts (history : List Call) :
    (after history).entries = (after (history.filter (·.isOfCheck))).entries ∧
      (after history).groups = (after (history.filter (! ·.isOfCheck))).groups := by
  induction history using List.reverseRecOn with
  | nil => exact ⟨rfl, rfl⟩
  | append_singleton history call ih =>
    obtain ⟨entries, groups⟩ := ih
    rw [after_concat]
    obtain ⟨kind, same, keeps⟩ | ⟨kind, same, keeps⟩ := call.apply_eq (after history)
    · rw [List.filter_append, List.filter_append, List.filter_cons_of_pos kind, List.filter_cons_of_neg (by simp [kind]),
        List.filter_nil, List.filter_nil, List.append_nil, after_concat, keeps _ entries.symm, same]
      exact ⟨rfl, groups⟩
    · rw [List.filter_append, List.filter_append, List.filter_cons_of_neg (by simp [kind]),
        List.filter_cons_of_pos (by simp [kind]), List.filter_nil, List.filter_nil, List.append_nil, after_concat,
        keeps _ groups.symm, same]
      exact ⟨entries, rfl⟩

end GateRunner.Registry
