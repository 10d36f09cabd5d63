import GateRunner.Json.Record
import GateRunner.Proofs.Json.Text
import Mathlib.Data.List.Forall2
import Mathlib.Data.List.Nodup

/-!
# Records that are written by their layout

A record is written as an object with a field for each of its values that is there, under the names of the layout
(`Layout.fields`). The layout has each name once, so each value is found again under its name, and a value that is not
there is missed only where the layout allows it.

**The law** (`record?_fields`): a record that is written by its layout is read back, value by value. Lists and values that
may be missing are read back exactly when their parts are (`mapM_map_eq_some_iff`, `nullable?_map_eq_some_iff`).
-/

namespace GateRunner.Json

/-- The fields that a layout makes of values: one for each value that is there, in order. -/
def Layout.fields (layout : Layout) (values : List (Option Json)) : List (String × Json) :=
  (layout.zip values).filterMap fun (f, value) => value.map (f.1, ·)

/-- Whether there is a place for each value, and a value wherever one has to be. -/
def Layout.admits (layout : Layout) (values : List (Option Json)) : Bool :=
  layout.length = values.length && (layout.zip values).all fun (f, value) => f.2 ≠ .required || value.isSome

namespace Layout

variable {layout : Layout} {values : List (Option Json)}

theorem fields_cons (f : String × Presence) (value : Option Json) :
    fields (f :: layout) (value :: values) = (value.map (f.1, ·)).toList ++ fields layout values := by
  cases value <;> rfl

/-- The names of the fields are names of the layout, in its order. -/
theorem names_sublist (layout : Layout) (values : List (Option Json)) :
    ((layout.fields values).map (·.1)).Sublist (layout.map (·.1)) := by
  induction layout generalizing values with
  | nil => exact .slnil
  | cons f layout ih =>
    cases values with
    | nil => exact List.nil_sublist _
    | cons value values =>
      rw [fields_cons]
      cases value with
      | none => exact (ih values).cons _
      | some v => exact (ih values).cons_cons _

/-- Under each name of the layout stands the value that was given for it. -/
theorem fieldIn?_fields (distinct : (layout.map (·.1)).Nodup) {f : String × Presence} {value : Option Json}
    (mem : (f, value) ∈ layout.zip values) : fieldIn? (layout.fields values) f.1 = value := by
  induction layout generalizing values with
  | nil => cases mem
  | cons g layout ih =>
    cases values with
    | nil => cases mem
    | cons first values =>
      obtain ⟨fresh, distinct⟩ := List.nodup_cons.mp distinct
      rw [fieldIn?, fields_cons]
      rcases List.mem_cons.mp mem with here | later
      · obtain ⟨rfl, rfl⟩ := Prod.mk.inj here
        cases value with
        | some v => exact List.lookup_cons_self
        | none =>
          refine List.lookup_eq_none_iff.mpr fun entry mem => ?_
          have named : entry.1 ∈ layout.map (·.1) := (names_sublist layout values).subset (List.mem_map_of_mem mem)
          exact bne_iff_ne.mpr fun same => fresh (by rwa [← same] at named)
      · have other : (f.1 == g.1) = false := beq_eq_false_iff_ne.mpr fun same =>
          fresh (List.mem_map.mpr ⟨f, (List.of_mem_zip later).1, same⟩)
        cases first with
        | none => exact ih distinct later
        | some v =>
          show ((g.1, v) :: fields layout values).lookup f.1 = value
          rw [List.lookup_cons, other]
          exact ih distinct later

/-- No field of the layout stands twice. -/
theorem countP_fields_le_one (distinct : (layout.map (·.1)).Nodup) (name : String) :
    (layout.fields values).countP (fun field => field.1 = name) ≤ 1 := by
  have names := List.nodup_iff_count_le_one.mp (distinct.sublist (layout.names_sublist values)) name
  rwa [List.count, List.countP_map] at names

theorem isPlainFields_fields (layout : Layout) (values : List (Option Json))
    (plain : ∀ value, some value ∈ values → value.isPlain = true) : isPlainFields (layout.fields values) = true := by
  induction layout generalizing values with
  | nil => rfl
  | cons f layout ih =>
    cases values with
    | nil => rfl
    | cons value values =>
      have rest := ih values fun v mem => plain v (List.mem_cons_of_mem _ mem)
      rw [fields_cons]
      cases value with
      | none => exact rest
      | some v => exact Bool.and_eq_true_iff.mpr ⟨plain v List.mem_cons_self, rest⟩

end Layout

theorem mapM_eq_some {α β : Type} {read : α → Option β} {as : List α} {bs : List β}
    (all : List.Forall₂ (fun a b => read a = some b) as bs) : as.mapM read = some bs := by
  induction all with
  | nil => rfl
  | cons head _ ih =>
    rw [List.mapM_cons, head, ih]
    rfl

/-- **A record that is written by its layout is read back.** -/
theorem record?_fields {layout : Layout} (values : List (Option Json)) (distinct : (layout.map (·.1)).Nodup)
    (admitted : layout.admits values = true) : record? layout (.obj (layout.fields values)) = some values := by
  obtain ⟨fits, present⟩ := Bool.and_eq_true_iff.mp admitted
  have once : layout.any (fun f => 1 < (layout.fields values).countP (fun field => field.1 = f.1)) = false :=
    List.any_eq_false.mpr fun f _ many =>
      Nat.not_lt.mpr (Layout.countP_fields_le_one distinct f.1) (of_decide_eq_true many)
  rw [record?, namedFields?, once]
  refine mapM_eq_some (List.forall₂_iff_zip.mpr ⟨of_decide_eq_true fits, fun {f value} mem => ?_⟩)
  have needed := List.all_eq_true.mp present (f, value) mem
  rw [Layout.fieldIn?_fields distinct mem]
  cases value with
  | some v => rfl
  | none =>
    simp only [Option.isSome_none, Bool.or_false, decide_eq_true_eq] at needed
    exact if_neg needed

/-! ## Lists, and values that may be missing -/

section

variable {α : Type} {write : α → Json} {read : Json → Option α}

/-- Items are read back exactly when each of them is. -/
theorem mapM_map_eq_some_iff (items : List α) :
    (items.map write).mapM read = some items ↔ ∀ a ∈ items, read (write a) = some a := by
  induction items with
  | nil => exact ⟨fun _ a mem => absurd mem List.not_mem_nil, fun _ => rfl⟩
  | cons a rest ih =>
    simp only [List.map_cons, List.mapM_cons, Option.bind_eq_bind, Option.bind_eq_some_iff, Option.pure_def,
      Option.some.injEq, List.cons.injEq, List.forall_mem_cons, ← ih]
    constructor
    · rintro ⟨_, head, _, tail, rfl, rfl⟩
      exact ⟨head, tail⟩
    · rintro ⟨head, tail⟩
      exact ⟨a, head, rest, tail, rfl, rfl⟩

/-- What holds of whatever is read holds of all items that are read. -/
theorem forall_of_mapM {P : α → Prop} (each : ∀ v a, read v = some a → P a) {items : List Json} {as : List α}
    (all : items.mapM read = some as) : ∀ a ∈ as, P a := by
  induction items generalizing as with
  | nil =>
    cases all
    exact fun a mem => absurd mem List.not_mem_nil
  | cons item rest ih =>
    simp only [List.mapM_cons, Option.bind_eq_bind, Option.bind_eq_some_iff, Option.pure_def, Option.some.injEq] at all
    obtain ⟨a, head, more, tail, rfl⟩ := all
    exact List.forall_mem_cons.mpr ⟨each item a head, ih tail⟩

/-- A value that may be missing is read back exactly when it is missing or is read back, if it is not written as a
missing one. -/
theorem nullable?_map_eq_some_iff (value : Option α) (there : ∀ a, write a ≠ .null) :
    nullable? read (value.map write) = some value ↔ ∀ a, value = some a → read (write a) = some a := by
  cases value with
  | none => exact ⟨fun _ _ held => (by cases held), fun _ => rfl⟩
  | some a =>
    rw [Option.map_some, nullable?]
    · simp only [Option.map_eq_some_iff, Option.some.injEq, exists_eq_right, forall_eq']
    · exact there a

/-- Writing a missing value as one makes no difference. -/
theorem nullable?_ofOption (value : Option α) :
    nullable? read (some (ofOption write value)) = nullable? read (value.map write) := by
  cases value <;> rfl

/-- What is read of a value that may be missing is read of some value. -/
theorem exists_of_nullable? {given : Option Json} {a : α} (held : nullable? read given = some (some a)) :
    ∃ v, read v = some a := by
  unfold nullable? at held
  split at held
  · cases held
  · cases held
  · obtain ⟨_, found, same⟩ := Option.map_eq_some_iff.mp held
    exact ⟨_, found.trans same⟩

end

/-- A number that is read has 64 bits. -/
theorem word?_lt {value : Json} {n : Nat} (read : value.word? = some n) : n < wordBound := by
  unfold word? at read
  split at read
  · split at read
    · rename_i bounds
      cases read
      exact (Int.toNat_lt bounds.1).mpr bounds.2
    · cases read
  · cases read

end GateRunner.Json
