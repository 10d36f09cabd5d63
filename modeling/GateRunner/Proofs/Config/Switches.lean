import GateRunner.Config.Document

/-!
# Which gates a document lets run

A document switches a gate off by its list, by the category or by the gate's own settings (`switchesOff_iff`).

`disabling` puts one more gate on the list, at the end. The list is made if there is none; a value that is no list cannot
be added to. Nothing else of the document changes, and since neither the list nor its absence holds settings, every gate
keeps its settings (`settingsOf_disabling`), also one of a category with the name of the list.

**The law** (`switchesOff_disabling`): the new document switches off what the old one does, and what is written like the
gate.
-/

namespace GateRunner

/-! ## A field put in place -/

namespace Json

variable {name other : String} {value : Json} {fields : List (String × Json)}

/-- What has been put is found. -/
theorem fieldIn?_putField_self : fieldIn? (putField name value fields) name = some value := by
  induction fields with
  | nil => exact List.lookup_cons_self
  | cons field rest ih =>
    unfold putField
    split
    · exact List.lookup_cons_self
    · rename_i differs
      split
      · exact List.lookup_cons_self
      · rw [fieldIn?, List.lookup_cons, beq_false_of_ne differs]
        exact ih

/-- All else is found as before. -/
theorem fieldIn?_putField_of_ne (differs : other ≠ name) :
    fieldIn? (putField name value fields) other = fieldIn? fields other := by
  have skip : ∀ rest, fieldIn? ((name, value) :: rest) other = fieldIn? rest other := fun rest => by
    rw [fieldIn?, List.lookup_cons, beq_false_of_ne differs, fieldIn?]
  induction fields with
  | nil => exact skip []
  | cons field rest ih =>
    unfold putField
    split
    · rename_i same
      rw [skip, fieldIn?, fieldIn?, List.lookup_cons, beq_false_of_ne (same ▸ differs)]
    · split
      · exact skip _
      · rw [fieldIn?, fieldIn?, List.lookup_cons, List.lookup_cons]
        split
        · rfl
        · exact ih

end Json

namespace Configuration

/-- The document does not let a gate run. -/
def SwitchesOff (config : Configuration) (id : CheckId) : Prop := ∃ reason, config.switchOf id = .off reason

theorem switchOf_ne_on_iff {config : Configuration} {id : CheckId} : config.switchOf id ≠ .on ↔ config.SwitchesOff id := by
  unfold SwitchesOff
  cases config.switchOf id with
  | on => simp
  | off reason => simp

/-- A gate is off when it is listed, or when its category or its own settings say so. -/
theorem switchesOff_iff {config : Configuration} {id : CheckId} : config.SwitchesOff id ↔ config.lists id = true ∨
    ∃ category, config.category? id = some category ∧
      ((Json.fieldIn? category "enabled").bind Json.bool? = some false ∨
        (config.settingsOf id).bool? "enabled" = some false) := by
  unfold SwitchesOff switchOf
  by_cases listed : config.lists id = true
  · simp only [listed, if_true, Switch.off.injEq, exists_eq', true_or]
  · rw [if_neg listed, or_iff_right listed]
    cases config.category? id with
    | none => simp only [reduceCtorEq, exists_const, false_and]
    | some category =>
      simp only [Option.some.injEq, exists_eq_left']
      split
      · rename_i off
        simp only [off, Switch.off.injEq, exists_eq', true_or]
      · rename_i on
        split
        · rename_i off
          simp only [off, Switch.off.injEq, exists_eq', or_true]
        · rename_i on'
          simp only [on, on', reduceCtorEq, exists_const, or_self]

/-! ## One more gate on the list -/

/-- The document with one more gate on its list of disabled gates. -/
def disabling (config : Configuration) (id : CheckId) : Option Configuration :=
  match config.root with
  | .obj fields =>
    match Json.fieldIn? fields "disabled_gates" with
    | none => some ⟨.obj (Json.putField "disabled_gates" (.arr [.str id.written]) fields)⟩
    | some (.arr items) =>
      some ⟨.obj (Json.putField "disabled_gates" (.arr (items ++ [.str id.written])) fields)⟩
    | some _ => none
  | _ => none

variable {config config' : Configuration} {id other : CheckId}

/-- What a document has for a field that is not the list, it still has. -/
theorem field?_disabling_of_ne (disabled : config.disabling id = some config') {name : String}
    (differs : name ≠ "disabled_gates") : config'.root.field? name = config.root.field? name := by
  obtain ⟨root⟩ := config
  unfold disabling at disabled
  cases root with
  | obj fields =>
    simp only at disabled
    split at disabled
    · cases disabled
      exact Json.fieldIn?_putField_of_ne differs
    · cases disabled
      exact Json.fieldIn?_putField_of_ne differs
    · cases disabled
  | _ => cases disabled

/-- The list before, none if there is none, and the list after. -/
theorem field?_disabling_self (disabled : config.disabling id = some config') :
    ∃ items, (config.root.field? "disabled_gates" = none ∧ items = [] ∨
        config.root.field? "disabled_gates" = some (.arr items)) ∧
      config'.root.field? "disabled_gates" = some (.arr (items ++ [.str id.written])) := by
  obtain ⟨root⟩ := config
  unfold disabling at disabled
  cases root with
  | obj fields =>
    simp only at disabled
    split at disabled
    · rename_i absent
      cases disabled
      exact ⟨[], .inl ⟨absent, rfl⟩, Json.fieldIn?_putField_self⟩
    · rename_i items present
      cases disabled
      exact ⟨items, .inr present, Json.fieldIn?_putField_self⟩
    · cases disabled
  | _ => cases disabled

/-- Whoever looks for more than a list in a field finds the same as before. -/
theorem bind_field?_disabling (disabled : config.disabling id = some config') {α : Type} {look : Json → Option α}
    (beyond : ∀ items, look (.arr items) = none) (name : String) :
    (config'.root.field? name).bind look = (config.root.field? name).bind look := by
  by_cases same : name = "disabled_gates"
  · subst same
    obtain ⟨items, before, after⟩ := field?_disabling_self disabled
    rw [after, Option.bind_some, beyond]
    rcases before with ⟨absent, _⟩ | present
    · rw [absent, Option.bind_none]
    · rw [present, Option.bind_some, beyond]
  · rw [field?_disabling_of_ne disabled same]

/-- **Every gate keeps its settings.** -/
theorem settingsOf_disabling (disabled : config.disabling id = some config') (other : CheckId) :
    config'.settingsOf other = config.settingsOf other := by
  unfold settingsOf
  rw [bind_field?_disabling disabled (fun _ => rfl)]

/-- The new list has what the old one has, and what is written like the gate. -/
theorem lists_disabling (disabled : config.disabling id = some config') :
    config'.lists other = true ↔ config.lists other = true ∨ id.written = other.written := by
  obtain ⟨items, before, after⟩ := field?_disabling_self disabled
  have lists' : config'.lists other = (config.lists other || decide (id.written = other.written)) := by
    unfold lists
    rw [after]
    rcases before with ⟨absent, rfl⟩ | present
    · simp [absent, Json.str?]
    · simp [present, Json.str?]
  rw [lists', Bool.or_eq_true, decide_eq_true_eq]

/-- **The new document switches off what the old one does, and what is written like the gate.** -/
theorem switchesOff_disabling (disabled : config.disabling id = some config') :
    config'.SwitchesOff other ↔ config.SwitchesOff other ∨ id.written = other.written := by
  have category : config'.category? other = config.category? other := bind_field?_disabling disabled (fun _ => rfl) _
  rw [switchesOff_iff, switchesOff_iff, lists_disabling disabled, category, settingsOf_disabling disabled, or_assoc,
    or_assoc, or_comm (a := id.written = other.written)]

end Configuration

end GateRunner
