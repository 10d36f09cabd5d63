import GateRunner.Proofs.Json.Numerals
import GateRunner.Proofs.Json.Quotes

/-!
# JSON values and their texts

A value is plain when there is no double in it and nothing unreadable, and its whole numbers have 64 bits
(`Json.isPlain`). What is written of a value are the characters `Json.written`, and these are what the printer appends
(`toList_writeTo`). The reader takes a bound on its steps along. The number of characters of a value is enough for it
(`value?_written`), so the induction is on the value, and every statement in it is about any bound that is large enough
and about whatever follows.

**The law** (`parse?_render`): a plain value is read back from its text.
-/

namespace GateRunner.Json

mutual

/-- Whether a value has no double in it and nothing unreadable, and only whole numbers of 64 bits. -/
def isPlain : Json → Bool
  | .num (.int value) => -(twoTo 63 : Int) ≤ value && value < wordBound
  | .num (.double _ _) | .unreadable => false
  | .arr items => isPlainItems items
  | .obj fields => isPlainFields fields
  | _ => true

/-- Whether all items are plain. -/
def isPlainItems : List Json → Bool
  | [] => true
  | item :: rest => isPlain item && isPlainItems rest

/-- Whether the values of all fields are plain. -/
def isPlainFields : List (String × Json) → Bool
  | [] => true
  | (_, value) :: rest => isPlain value && isPlainFields rest

end

theorem isPlain_nat {n : Nat} (fits : n < wordBound) : (nat n).isPlain = true := by
  have least : -(twoTo 63 : Int) ≤ n := Int.le_trans (by decide) (Int.natCast_nonneg n)
  simp only [nat, isPlain, Bool.and_eq_true, decide_eq_true_eq]
  exact ⟨least, Int.ofNat_lt.mpr fits⟩

theorem isPlainItems_map {α : Type} {write : α → Json} {items : List α} (plain : ∀ a ∈ items, (write a).isPlain = true) :
    isPlainItems (items.map write) = true := by
  induction items with
  | nil => rfl
  | cons a rest ih =>
    obtain ⟨head, tail⟩ := List.forall_mem_cons.mp plain
    exact Bool.and_eq_true_iff.mpr ⟨head, ih tail⟩

/-! ## What is written -/

mutual

/-- The characters of a value on one line. -/
def written : Json → List Char
  | .null | .unreadable => ['n', 'u', 'l', 'l']
  | .bool true => ['t', 'r', 'u', 'e']
  | .bool false => ['f', 'a', 'l', 's', 'e']
  | .num n => n.text.toList
  | .str s => '"' :: (escapes s.toList ++ ['"'])
  | .arr items => '[' :: (writtenItems false items ++ [']'])
  | .obj fields => '\x7b' :: (writtenFields false fields ++ ['\x7d'])

/-- The characters of items, with a comma before each but the first. -/
def writtenItems (comma : Bool) : List Json → List Char
  | [] => []
  | item :: rest => (if comma then [','] else []) ++ (written item ++ writtenItems true rest)

/-- The characters of fields, with a comma before each but the first. -/
def writtenFields (comma : Bool) : List (String × Json) → List Char
  | [] => []
  | (name, value) :: rest =>
    (if comma then [','] else []) ++
      ('"' :: (escapes name.toList ++ '"' :: ':' :: (written value ++ writtenFields true rest)))

end

theorem toList_withComma (acc : String) (comma : Bool) :
    (if comma then acc ++ "," else acc).toList = acc.toList ++ if comma then [','] else [] := by
  cases comma with
  | true => exact String.toList_append
  | false => exact (List.append_nil _).symm

mutual

theorem toList_writeTo : ∀ (v : Json) (acc : String), (writeTo acc v).toList = acc.toList ++ written v
  | .null, acc | .unreadable, acc | .bool true, acc | .bool false, acc | .num _, acc => String.toList_append
  | .str s, acc => by
    rw [writeTo, String.toList_append, toList_quoted, written, List.cons_append]
  | .arr items, acc => by
    rw [writeTo, String.toList_append, toList_writeItems items, String.toList_append, written]
    simp only [List.append_assoc, List.cons_append, String.reduceToList, List.nil_append]
  | .obj fields, acc => by
    rw [writeTo, String.toList_append, toList_writeFields fields, String.toList_append, written]
    simp only [List.append_assoc, List.cons_append, String.reduceToList, List.nil_append]

theorem toList_writeItems : ∀ (items : List Json) (acc : String) (comma : Bool),
    (writeItems acc comma items).toList = acc.toList ++ writtenItems comma items
  | [], acc, comma => (List.append_nil _).symm
  | item :: rest, acc, comma => by
    rw [writeItems, toList_writeItems rest, toList_writeTo item, toList_withComma, writtenItems]
    simp only [List.append_assoc]

theorem toList_writeFields : ∀ (fields : List (String × Json)) (acc : String) (comma : Bool),
    (writeFields acc comma fields).toList = acc.toList ++ writtenFields comma fields
  | [], acc, comma => (List.append_nil _).symm
  | (name, value) :: rest, acc, comma => by
    rw [writeFields, toList_writeFields rest, toList_writeTo value, String.toList_append, String.toList_append,
      toList_withComma, toList_quoted, writtenFields]
    simp only [List.append_assoc, List.cons_append, String.reduceToList, List.nil_append]

end

theorem toList_render (v : Json) : v.render.toList = written v := toList_writeTo v ""

/-! ## How values begin -/

/-- Whether a character may be the first of a value: it is no blank, and it ends no array or object. -/
def begins (c : Char) : Bool := !isBlank c && c ≠ ']' && c ≠ '\x7d'

/-- A value that begins is at the front: there is no blank to pass over. -/
theorem skipBlanks_of_begins {c : Char} (begun : begins c = true) (cs : List Char) : skipBlanks (c :: cs) = c :: cs := by
  simp only [begins, Bool.and_eq_true, Bool.not_eq_true'] at begun
  exact List.dropWhile_cons_of_neg (Bool.eq_false_iff.mp begun.1.1)

/-- A digit or a sign is no other character. -/
theorem ne_of_sign {c d : Char} (sign : isDigit c = true ∨ c = '-') (digit : isDigit d = false) (minus : d ≠ '-') :
    c ≠ d := by
  rintro rfl
  rcases sign with sign | sign
  · rw [digit] at sign
    cases sign
  · exact minus sign

theorem begins_of_sign {c : Char} (sign : isDigit c = true ∨ c = '-') : begins c = true := by
  have other : ∀ {d : Char}, isDigit d = false → d ≠ '-' → c ≠ d := ne_of_sign sign
  simp only [begins, isBlank, Bool.and_eq_true, Bool.not_eq_true', Bool.or_eq_false_iff, decide_eq_false_iff_not,
    decide_eq_true_eq]
  exact ⟨⟨⟨⟨⟨other rfl (by decide), other rfl (by decide)⟩, other rfl (by decide)⟩, other rfl (by decide)⟩,
    other rfl (by decide)⟩, other rfl (by decide)⟩

theorem exists_written {v : Json} (plain : v.isPlain = true) : ∃ c cs, written v = c :: cs ∧ begins c = true := by
  cases v with
  | num n =>
    cases n with
    | int value =>
      obtain ⟨c, cs, text, sign⟩ := exists_toString value
      exact ⟨c, cs, text, begins_of_sign sign⟩
    | double _ _ => cases plain
  | bool b => cases b <;> exact ⟨_, _, rfl, rfl⟩
  | unreadable => cases plain
  | _ => exact ⟨_, _, rfl, rfl⟩

theorem exists_writtenItems {item : Json} (plain : item.isPlain = true) (items : List Json) (rest : List Char) :
    ∃ c cs, writtenItems false (item :: items) ++ rest = c :: cs ∧ begins c = true := by
  obtain ⟨c, cs, text, begun⟩ := exists_written plain
  refine ⟨c, cs ++ (writtenItems true items ++ rest), ?_, begun⟩
  simp only [writtenItems, Bool.false_eq_true, if_false, List.nil_append, text, List.cons_append, List.append_assoc]

/-! ## Steps of the reader -/

/-- A digit or a sign begins a number. -/
theorem value?_number {c : Char} (sign : isDigit c = true ∨ c = '-') (fuel : Nat) (cs : List Char) :
    value? (fuel + 1) (c :: cs) = number? (c :: cs) := by
  have other : ∀ {d : Char}, isDigit d = false → d ≠ '-' → c ≠ d := ne_of_sign sign
  rw [value?, skipBlanks_of_begins (begins_of_sign sign)]
  split <;> rename_i same
  case h_1 => cases same
  case h_8 => rfl
  all_goals exact absurd (List.cons.inj same).1 (other (by rfl) (by decide))

/-- A bracket that is not closed at once is followed by items. -/
theorem value?_items {cs : List Char} (begun : ∃ c ds, cs = c :: ds ∧ begins c = true) (fuel : Nat) :
    value? (fuel + 1) ('[' :: cs) = items? fuel [] cs := by
  obtain ⟨c, ds, rfl, begun⟩ := begun
  simp only [value?, skipBlanks_of_begins (c := '[') rfl, skipBlanks_of_begins begun]
  split
  · rename_i same
    obtain ⟨rfl, _⟩ := List.cons.inj same
    cases begun
  · rfl

section

variable (name : String) (fuel : Nat) (seen : List (Option String × Json)) {tail rest : List Char} {value : Json}

/-- Of a field the name is read, and then the value. The last field closes the object. -/
theorem fields?_last (read : value? fuel tail = some (value, '\x7d' :: rest)) :
    fields? (fuel + 1) seen ('"' :: (escapes name.toList ++ '"' :: ':' :: tail)) =
      some (objectOf ((some name, value) :: seen), rest) := by
  have closed : skipBlanks ('\x7d' :: rest) = '\x7d' :: rest := rfl
  simp only [fields?, skipBlanks_of_begins (c := '"') rfl, string?_quoted, skipBlanks_of_begins (c := ':') rfl, read, closed]

/-- Any other field leaves the rest of them to be read. -/
theorem fields?_next (read : value? fuel tail = some (value, ',' :: rest)) :
    fields? (fuel + 1) seen ('"' :: (escapes name.toList ++ '"' :: ':' :: tail)) =
      fields? fuel ((some name, value) :: seen) rest := by
  simp only [fields?, skipBlanks_of_begins (c := '"') rfl, string?_quoted, skipBlanks_of_begins (c := ':') rfl, read,
    skipBlanks_of_begins (c := ',') rfl]

end

/-- Fields as they are kept while an object is read: the last one first, each with the name that was made out. -/
def kept (fields : List (String × Json)) : List (Option String × Json) := (fields.map fun f => (some f.1, f.2)).reverse

theorem kept_snoc (seen : List (String × Json)) (name : String) (value : Json) :
    (some name, value) :: kept seen = kept (seen ++ [(name, value)]) := by
  rw [kept, kept, List.map_append, List.reverse_append]
  rfl

theorem objectOf_kept (fields : List (String × Json)) : objectOf (kept fields) = .obj fields := by
  have read (f : Option String × Json → Option (String × Json)) (each : ∀ name value, f (some name, value) = some (name, value)) :
      (kept fields).reverse.mapM f = some fields := by
    rw [kept, List.reverse_reverse]
    induction fields with
    | nil => rfl
    | cons field rest ih =>
      rw [List.map_cons, List.mapM_cons, ih, each]
      rfl
  rw [objectOf, read _ fun _ _ => rfl]

/-! ## Reading what is written -/

mutual

/-- **A plain value is read from its characters**, whatever follows and with any bound from their number on. -/
theorem value?_written : ∀ (v : Json), v.isPlain = true → ∀ fuel, (written v).length ≤ fuel → ∀ rest, Follows rest →
    value? fuel (written v ++ rest) = some (v, rest)
  | .null, _, fuel + 1, _, rest, _ | .bool true, _, fuel + 1, _, rest, _ | .bool false, _, fuel + 1, _, rest, _ => rfl
  | .num (.int value), plain, fuel + 1, _, rest, follows => by
    obtain ⟨c, cs, text, sign⟩ := exists_toString value
    have bounds := Bool.and_eq_true_iff.mp plain
    have read := number?_toString (of_decide_eq_true bounds.1) (of_decide_eq_true bounds.2) follows
    have same : written (.num (.int value)) = c :: cs := text
    rw [text] at read
    rw [same]
    exact (value?_number sign fuel _).trans read
  | .str s, _, fuel + 1, _, rest, _ => by
    have read : string? (escapes s.toList ++ '"' :: rest) = some (some s, rest) := string?_quoted s rest
    rw [written, List.cons_append, List.append_assoc, List.singleton_append]
    show (string? (escapes s.toList ++ '"' :: rest)).map _ = _
    rw [read]
    rfl
  | .arr [], _, fuel + 1, _, rest, _ => rfl
  | .arr (item :: items), plain, fuel + 1, long, rest, _ => by
    have enough : (writtenItems false (item :: items)).length < fuel := by
      simp only [written, List.length_cons, List.length_append, List.length_nil] at long
      omega
    have begun := exists_writtenItems (Bool.and_eq_true_iff.mp plain).1 items (']' :: rest)
    rw [written, List.cons_append, List.append_assoc, List.singleton_append, value?_items begun,
      items?_written item items plain fuel enough]
    rfl
  | .obj [], _, fuel + 1, _, rest, _ => rfl
  | .obj (field :: fields), plain, fuel + 1, long, rest, _ => by
    have enough : (writtenFields false (field :: fields)).length < fuel := by
      simp only [written, List.length_cons, List.length_append, List.length_nil] at long
      omega
    rw [written, List.cons_append, List.append_assoc, List.singleton_append]
    exact fields?_written field fields plain fuel enough [] rest
  | .unreadable, plain, _, _, _, _ | .num (.double _ _), plain, _, _, _, _ => by cases plain
  | v, plain, 0, long, _, _ => by
    obtain ⟨c, cs, text, _⟩ := exists_written plain
    rw [text] at long
    cases long

theorem items?_written : ∀ (item : Json) (items : List Json), isPlainItems (item :: items) = true → ∀ fuel,
    (writtenItems false (item :: items)).length < fuel → ∀ (seen : List Json) (rest : List Char),
    items? fuel seen (writtenItems false (item :: items) ++ ']' :: rest) = some (.arr (seen.reverse ++ item :: items), rest)
  | item, [], plain, fuel + 1, long, seen, rest => by
    have text : writtenItems false [item] = written item := List.append_nil _
    rw [text] at long ⊢
    have read := value?_written item (Bool.and_eq_true_iff.mp plain).1 fuel (Nat.le_of_lt_succ long) (']' :: rest)
      (follows_cons (.inr (.inl rfl)))
    rw [items?, read]
    show some (Json.arr (item :: seen).reverse, rest) = _
    rw [List.reverse_cons]
  | item, next :: items, plain, fuel + 1, long, seen, rest => by
    have text : writtenItems false (item :: next :: items) = written item ++ ',' :: writtenItems false (next :: items) := rfl
    obtain ⟨plainItem, plainItems⟩ := Bool.and_eq_true_iff.mp plain
    rw [text, List.length_append, List.length_cons] at long
    have read := value?_written item plainItem fuel (by omega) (',' :: (writtenItems false (next :: items) ++ ']' :: rest))
      (follows_cons (.inl rfl))
    rw [text, List.append_assoc, List.cons_append, items?, read]
    show items? fuel (item :: seen) (writtenItems false (next :: items) ++ ']' :: rest) = _
    rw [items?_written next items plainItems fuel (by omega), List.reverse_cons, List.append_assoc]
    rfl

theorem fields?_written : ∀ (field : String × Json) (fields : List (String × Json)),
    isPlainFields (field :: fields) = true → ∀ fuel, (writtenFields false (field :: fields)).length < fuel →
    ∀ (seen : List (String × Json)) (rest : List Char),
    fields? fuel (kept seen) (writtenFields false (field :: fields) ++ '\x7d' :: rest) =
      some (.obj (seen ++ field :: fields), rest)
  | (name, value), [], plain, fuel + 1, long, seen, rest => by
    have text : writtenFields false [(name, value)] = '"' :: (escapes name.toList ++ '"' :: ':' :: written value) := by
      simp only [writtenFields, Bool.false_eq_true, if_false, List.nil_append, List.append_nil]
    rw [text] at long ⊢
    simp only [List.length_cons, List.length_append] at long
    have read := value?_written value (Bool.and_eq_true_iff.mp plain).1 fuel (by omega) ('\x7d' :: rest)
      (follows_cons (.inr (.inr rfl)))
    simp only [List.cons_append, List.append_assoc]
    rw [fields?_last name fuel _ read, kept_snoc, objectOf_kept]
  | (name, value), next :: fields, plain, fuel + 1, long, seen, rest => by
    have text : writtenFields false ((name, value) :: next :: fields) =
        '"' :: (escapes name.toList ++ '"' :: ':' :: (written value ++ ',' :: writtenFields false (next :: fields))) := rfl
    obtain ⟨plainValue, plainFields⟩ := Bool.and_eq_true_iff.mp plain
    rw [text] at long ⊢
    simp only [List.length_cons, List.length_append] at long
    have read := value?_written value plainValue fuel (by omega)
      (',' :: (writtenFields false (next :: fields) ++ '\x7d' :: rest)) (follows_cons (.inl rfl))
    simp only [List.cons_append, List.append_assoc]
    rw [fields?_next name fuel _ read, kept_snoc, fields?_written next fields plainFields fuel (by omega), List.append_assoc]
    rfl

end

/-- **A plain value is read back from its text.** -/
theorem parse?_render {v : Json} (plain : v.isPlain = true) : parse? v.render = some v := by
  have read := value?_written v plain ((written v).length + 1) (Nat.le_succ _) [] follows_nil
  rw [List.append_nil] at read
  simp only [parse?, toList_render, read]
  rfl

/-- What a function on values makes of the value that a text holds. -/
def decode? {α : Type} (read : Json → Option α) (text : String) : Option α := (parse? text).bind read

theorem decode?_render {α : Type} {read : Json → Option α} {v : Json} (plain : v.isPlain = true) :
    decode? read v.render = read v := by
  rw [decode?, parse?_render plain, Option.bind_some]

end GateRunner.Json
