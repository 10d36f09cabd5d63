import GateRunner.Json.Printer
import GateRunner.Json.Reader

/-!
# Texts in quotation marks

Inside quotation marks each character is written by itself, escaped if it has to be (`escapes`), and each is read by
itself: one step of the reader takes exactly what one character was written as (`stringRest?_escaped`). A mark that
stands unescaped can therefore only be the closing one.

**The law** (`string?_quoted`): a text is read back from its characters and the closing mark, whatever follows.
-/

namespace GateRunner.Json

/-- The characters of a text inside quotation marks. -/
def escapes (cs : List Char) : List Char := cs.flatMap fun c => (escaped c).toList

theorem toList_quoted (s : String) : (quoted s).toList = '"' :: escapes s.toList ++ ['"'] := by
  have general : ∀ (cs : List Char) (acc : String),
      (cs.foldl (fun acc c => acc ++ escaped c) acc).toList = acc.toList ++ escapes cs := by
    intro cs
    induction cs with
    | nil => exact fun acc => (List.append_nil _).symm
    | cons c cs ih =>
      intro acc
      rw [List.foldl_cons, ih, String.toList_append, List.append_assoc]
      rfl
  rw [quoted, String.foldl_eq_foldl_toList, String.toList_append, general]
  rfl

/-- Every character is written with one character at least. -/
theorem length_le_escapes (cs : List Char) : cs.length ≤ (escapes cs).length := by
  have written (c : Char) : 0 < (escaped c).toList.length := by
    unfold escaped
    split
    · decide
    split
    · decide
    split
    · rw [String.toList_append, List.length_append]
      exact Nat.lt_of_lt_of_le (by decide) (Nat.le_add_right _ _)
    · rw [String.toList_singleton]
      exact Nat.one_pos
  induction cs with
  | nil => exact Nat.zero_le _
  | cons c cs ih =>
    rw [escapes, List.flatMap_cons, List.length_append, List.length_cons, Nat.add_comm]
    exact Nat.add_le_add (written c) ih

/-! ## Control characters -/

/-- What four digits stand for does not depend on what follows them. -/
theorem unit?_append {cs left : List Char} {n : Nat} (read : unit? cs = some (n, left)) (rest : List Char) :
    unit? (cs ++ rest) = some (n, left ++ rest) := by
  match cs with
  | [] | [_] | [_, _] | [_, _, _] => cases read
  | a :: b :: c :: d :: tail =>
    simp only [unit?, List.cons_append, Option.bind_eq_bind, Option.bind_eq_some_iff, Option.pure_def,
      Option.some.injEq, Prod.mk.injEq] at read ⊢
    obtain ⟨a', ha, b', hb, c', hc, d', hd, value, rfl⟩ := read
    exact ⟨a', ha, b', hb, c', hc, d', hd, value, rfl⟩

/-- A control character is written with four digits that are read as its number. -/
theorem unit?_hex4 {n : Nat} (control : n < 0x20) (rest : List Char) : unit? ((hex4 n).toList ++ rest) = some (n, rest) := by
  have alone : ∀ n < 0x20, unit? (hex4 n).toList = some (n, []) := by decide +kernel
  exact unit?_append (alone n control) rest

/-- A control character is no half of a pair. -/
theorem not_half_of_control {n : Nat} (control : n < 0x20) : isHigh n = false ∧ isLow n = false := by
  simp only [isHigh, isLow, Bool.and_eq_false_iff, decide_eq_false_iff_not]
  omega

/-! ## Reading -/

/-- **One step of the reader takes what one character was written as.** -/
theorem stringRest?_escaped (c : Char) (fuel : Nat) (seen : Option (List Char)) (rest : List Char) :
    stringRest? (fuel + 1) seen ((escaped c).toList ++ rest) = stringRest? fuel (seen.map (c :: ·)) rest := by
  unfold escaped
  split
  · subst c
    rfl
  split
  · subst c
    rfl
  split
  · rename_i control
    obtain ⟨high, low⟩ := not_half_of_control control
    rw [String.toList_append]
    show stringRest? (fuel + 1) seen ('\\' :: 'u' :: ((hex4 c.toNat).toList ++ rest)) = _
    rw [stringRest?]
    simp only [unit?_hex4 control, high, low, Char.ofNat_toNat, Bool.false_eq_true, if_false]
  · rename_i quote backslash control
    rw [String.toList_singleton, List.singleton_append, stringRest?]
    · rw [if_neg control]
    · exact quote
    · exact fun _ same _ => backslash same
    · exact fun _ _ same _ => backslash same

theorem stringRest?_escapes (cs : List Char) (fuel : Nat) (long : cs.length < fuel) (seen rest : List Char) :
    stringRest? fuel (some seen) (escapes cs ++ '"' :: rest) = some (some (String.ofList (seen.reverse ++ cs)), rest) := by
  induction cs generalizing fuel seen with
  | nil =>
    obtain ⟨fuel, rfl⟩ := Nat.exists_eq_succ_of_ne_zero (Nat.ne_of_gt long)
    rw [List.append_nil]
    rfl
  | cons c cs ih =>
    obtain ⟨fuel, rfl⟩ := Nat.exists_eq_succ_of_ne_zero (Nat.ne_of_gt (Nat.zero_lt_of_lt long))
    have split : escapes (c :: cs) ++ '"' :: rest = (escaped c).toList ++ (escapes cs ++ '"' :: rest) := by
      simp only [escapes, List.flatMap_cons, List.append_assoc]
    rw [split, stringRest?_escaped, Option.map_some, ih fuel (Nat.lt_of_succ_lt_succ long), List.reverse_cons,
      List.append_assoc]
    rfl

/-- **A text is read back from its characters and the closing mark.** -/
theorem string?_quoted (s : String) (rest : List Char) :
    string? (escapes s.toList ++ '"' :: rest) = some (some s, rest) := by
  have long : s.toList.length < (escapes s.toList ++ '"' :: rest).length + 1 := by
    have written := length_le_escapes s.toList
    rw [List.length_append]
    omega
  rw [string?, stringRest?_escapes _ _ long, List.reverse_nil, List.nil_append, String.ofList_toList]

end GateRunner.Json
