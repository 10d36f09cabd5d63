import GateRunner.Check.Id
import Mathlib.Data.List.TakeWhile
import Mathlib.Data.Set.Function

/-!
# Written ids

The written form of a check is read by its first colon. An id is `Readable` when this gives the id back: no part is
empty, and the category holds no colon. What the name holds makes no difference. Readable ids that are written alike are
the same (`written_inj`), so for them a list of texts is a list of ids.

**The law** (`reads_what_is_written`): a text names an id exactly when it is the written form of a readable one, and this
is the id that it names. A text without a colon lacks the separator, and every other text has an empty part. So an id is
read back from its written form exactly when it is readable.
-/

namespace GateRunner.CheckId

theorem written_toList (id : CheckId) : id.written.toList = id.category.toList ++ ':' :: id.name.toList := by
  simp only [written, String.toList_append, String.reduceToList, List.append_assoc, List.singleton_append]

/-- **A readable id is read back from its written form.** -/
theorem parse_written {id : CheckId} (readable : id.Readable) : parse id.written = .ok id := by
  obtain ⟨category, plain, name⟩ := readable
  have before : ∀ c ∈ id.category.toList, inCategory c = true :=
    fun c hc => decide_eq_true fun colon => plain (colon ▸ hc)
  have filled : ∀ {text : String}, text ≠ "" → text.toList.isEmpty = false := fun filled =>
    List.isEmpty_eq_false_iff.mpr fun empty => filled (String.toList_eq_nil_iff.mp empty)
  unfold parse
  rw [written_toList, List.takeWhile_append_of_pos before, List.dropWhile_append_of_pos before]
  simp [inCategory, filled category, filled name]

/-- What a text names is readable. -/
theorem readable_of_parse? {text : String} {id : CheckId} (read : parse? text = some id) : id.Readable := by
  have filled : ∀ {cs : List Char}, cs.isEmpty = false → String.ofList cs ≠ "" := fun filled empty =>
    List.isEmpty_eq_false_iff.mp filled (String.ofList_eq_empty_iff.mp empty)
  simp only [parse?, parse] at read
  split at read
  · cases read
  · split at read
    · cases read
    · rename_i parts
      cases read
      obtain ⟨category, name⟩ := Bool.or_eq_false_iff.mp (Bool.eq_false_iff.mpr parts)
      refine ⟨filled category, fun colon => ?_, filled name⟩
      rw [String.toList_ofList] at colon
      have plain : inCategory ':' = true := List.mem_takeWhile_imp colon
      cases plain

/-- **Readable ids that are written alike are the same.** -/
theorem written_inj {id other : CheckId} (h : id.Readable) (h' : other.Readable) :
    id.written = other.written ↔ id = other := by
  refine ⟨fun same => ?_, fun same => same ▸ rfl⟩
  have read := parse_written h
  rw [same, parse_written h'] at read
  exact (Except.ok.inj read).symm

/-! ## What a text names -/

/-- What is left of a text after its category begins with the first colon. -/
theorem eq_colon_of_dropWhile {cs name : List Char} {c : Char} (left : cs.dropWhile inCategory = c :: name) : c = ':' := by
  have stops := List.head_dropWhile_not inCategory (l := cs) (left ▸ List.cons_ne_nil c name)
  simpa [left, inCategory] using stops

/-- A text without a colon lacks the separator; with one it names an id, or has an empty part. -/
theorem parse_cases (text : String) :
    (':' ∉ text.toList ∧ parse text = .error (.missingSeparator text)) ∨
    (':' ∈ text.toList ∧ ((∃ id, parse text = .ok id ∧ text = id.written) ∨ parse text = .error (.emptyPart text))) := by
  have whole := List.takeWhile_append_dropWhile (p := inCategory) (l := text.toList)
  unfold parse
  cases left : text.toList.dropWhile inCategory with
  | nil =>
    have plain := List.dropWhile_eq_nil_iff.mp left
    exact .inl ⟨fun colon => absurd (plain _ colon) (by decide), rfl⟩
  | cons c name =>
    obtain rfl := eq_colon_of_dropWhile left
    rw [left] at whole
    refine .inr ⟨whole ▸ List.mem_append_right _ List.mem_cons_self, ?_⟩
    simp only
    split
    · exact .inr rfl
    · refine .inl ⟨_, rfl, String.toList_inj.mp ?_⟩
      rw [written_toList, String.toList_ofList, String.toList_ofList, whole]

/-- **A text names an id exactly when it is the written form of the id, and the id is readable.** -/
theorem parse_eq_ok_iff {text : String} {id : CheckId} : parse text = .ok id ↔ text = id.written ∧ id.Readable := by
  constructor
  · intro read
    have named : parse? text = some id := by rw [parse?, read]; rfl
    have readable := readable_of_parse? named
    rcases parse_cases text with ⟨_, missing⟩ | ⟨_, ⟨other, same, written⟩ | empty⟩
    · rw [missing] at read
      cases read
    · rw [same] at read
      cases read
      exact ⟨written, readable⟩
    · rw [empty] at read
      cases read
  · rintro ⟨rfl, readable⟩
    exact parse_written readable

/-- **Reading accepts exactly what writing gives of readable ids.** Of a text that it does not accept it says whether the
separator is missing or a part is empty, and gives the text. -/
theorem reads_what_is_written :
    (∀ text category name, parse text = .ok ⟨category, name⟩ ↔
      text = category ++ ":" ++ name ∧ (category ≠ "" ∧ ':' ∉ category.toList) ∧ name ≠ "") ∧
    (∀ text, parse text = .error (.missingSeparator text) ↔ ':' ∉ text.toList) ∧
    (∀ text, parse text = .error (.emptyPart text) ↔ ':' ∈ text.toList ∧ ∀ id, parse text ≠ .ok id) ∧
    (∀ text e, parse text = .error e → e = .missingSeparator text ∨ e = .emptyPart text) ∧
    (∀ text id, parse text = .ok id → id.written = text) ∧
    (∀ category name, parse (written ⟨category, name⟩) = .ok ⟨category, name⟩ ↔
      (category ≠ "" ∧ ':' ∉ category.toList) ∧ name ≠ "") ∧
    Set.InjOn written {id | (id.category ≠ "" ∧ ':' ∉ id.category.toList) ∧ id.name ≠ ""} := by
  refine ⟨fun text category name => ?_, fun text => ?_, fun text => ?_, fun text e failed => ?_,
    fun text id read => (parse_eq_ok_iff.mp read).1.symm, fun category name => ?_, fun id readable other readable' same => ?_⟩
  · rw [parse_eq_ok_iff, Readable, and_assoc (a := category ≠ "")]
    rfl
  · rcases parse_cases text with ⟨plain, missing⟩ | ⟨colon, ⟨id, read, -⟩ | empty⟩
    all_goals simp [*]
  · rcases parse_cases text with ⟨plain, missing⟩ | ⟨colon, ⟨id, read, -⟩ | empty⟩
    all_goals simp [*]
  · rcases parse_cases text with ⟨plain, missing⟩ | ⟨colon, ⟨id, read, -⟩ | empty⟩
    all_goals simp_all
  · rw [parse_eq_ok_iff, Readable, and_assoc (a := category ≠ "")]
    exact and_iff_right rfl
  · exact (written_inj (and_assoc.mp readable) (and_assoc.mp readable')).mp same

end GateRunner.CheckId
