import GateRunner.Json.Reader
import Mathlib.Data.List.TakeWhile

/-!
# Whole numbers in JSON texts

A whole number is written in decimal, with a sign in front if it is negative. The reader takes digits as long as there
are any, then looks for a point and for an exponent, and gathers the digits into 64 bits. So it depends on what follows
whether a number ends where its digits do. In a text a value is at the end, or a comma or a closing bracket comes next
(`Follows`), and none of these carries a number on.

**The law** (`number?_toString`): a whole number of 64 bits, with or without sign, is read back from its digits.
-/

namespace GateRunner.Json

/-- What comes after a value in a text: nothing, or what goes on with the array or object that it stands in. -/
def Follows (rest : List Char) : Prop := ∀ c ∈ rest.head?, c = ',' ∨ c = ']' ∨ c = '\x7d'

theorem follows_nil : Follows [] := fun _ mem => absurd mem (Option.not_mem_none _)

theorem follows_cons {c : Char} {rest : List Char} (mark : c = ',' ∨ c = ']' ∨ c = '\x7d') : Follows (c :: rest) :=
  fun _ mem => Option.some.inj mem ▸ mark

namespace Follows

variable {rest : List Char} (follows : Follows rest)
include follows

/-- A run of digits ends where a value does. -/
theorem digits_end : rest.takeWhile isDigit = [] ∧ rest.dropWhile isDigit = rest := by
  cases rest with
  | nil => exact ⟨rfl, rfl⟩
  | cons c rest =>
    have other : ¬ isDigit c = true := by rcases follows c rfl with rfl | rfl | rfl <;> decide
    exact ⟨List.takeWhile_cons_of_neg other, List.dropWhile_cons_of_neg other⟩

theorem head_not_digit : rest.head?.any isDigit = false := by
  cases rest with
  | nil => rfl
  | cons c rest => rcases follows c rfl with rfl | rfl | rfl <;> rfl

theorem fraction?_eq : fraction? rest = some (none, rest) := by
  cases rest with
  | nil => rfl
  | cons c rest => rcases follows c rfl with rfl | rfl | rfl <;> rfl

theorem exponent?_eq : exponent? rest = some (none, rest) := by
  cases rest with
  | nil => rfl
  | cons c rest => rcases follows c rfl with rfl | rfl | rfl <;> rfl

end Follows

/-! ## Digits -/

/-- The numeral of a natural starts with a digit, and all of it are digits. -/
theorem isDigit_of_mem_toDigits {n : Nat} {c : Char} (mem : c ∈ Nat.toDigits 10 n) : isDigit c = true :=
  Nat.isDigit_of_mem_toDigits (by decide) (by decide) mem

theorem exists_toDigits (n : Nat) : ∃ c cs, Nat.toDigits 10 n = c :: cs ∧ isDigit c = true := by
  obtain ⟨c, cs, digits⟩ := List.exists_cons_of_ne_nil (Nat.toDigits_ne_nil (n := n) (b := 10))
  exact ⟨c, cs, digits, isDigit_of_mem_toDigits (digits ▸ List.mem_cons_self)⟩

/-- Only zero is written with a zero in front. -/
theorem toDigits_ne_zero_cons {n : Nat} (pos : 0 < n) : ∀ cs, Nat.toDigits 10 n ≠ '0' :: cs := by
  induction n using Nat.strong_induction_on with
  | _ n ih =>
    intro cs
    by_cases small : n < 10
    · rw [Nat.toDigits_of_lt_base small]
      intro same
      exact Nat.ne_of_gt pos (Nat.digitChar_eq_zero.mp (List.cons.inj same).1)
    · rw [Nat.toDigits_of_base_le (by decide) (Nat.le_of_not_lt small)]
      obtain ⟨c, ds, digits, _⟩ := exists_toDigits (n / 10)
      rw [digits]
      intro same
      obtain ⟨rfl, _⟩ := List.cons.inj same
      exact ih (n / 10) (Nat.div_lt_self pos (by decide)) (by omega) ds digits

/-- Digits whose value fits in 64 bits are gathered to the last one. -/
theorem gather_eq {cs : List Char} {acc : Nat} (fits : Nat.ofDigitChars 10 cs acc < wordBound) :
    Number.gather acc cs = (Nat.ofDigitChars 10 cs acc, []) := by
  induction cs generalizing acc with
  | nil => rfl
  | cons c cs ih =>
    have next : Nat.ofDigitChars 10 (c :: cs) acc = Nat.ofDigitChars 10 cs (acc * 10 + Number.digit c) := by
      rw [Nat.ofDigitChars_cons, Nat.mul_comm]
      rfl
    -- the value only grows with the digits that are still to come
    have grows : acc * 10 + Number.digit c ≤ Nat.ofDigitChars 10 cs (acc * 10 + Number.digit c) := by
      rw [Nat.ofDigitChars_eq_ofDigitChars_zero]
      exact (Nat.le_mul_of_pos_left _ (Nat.pow_pos (by decide))).trans (Nat.le_add_right _ _)
    rw [next] at fits ⊢
    rw [Number.gather, if_pos (grows.trans_lt fits), ih fits]

theorem gather_toDigits {n : Nat} (fits : n < wordBound) : Number.gather 0 (Nat.toDigits 10 n) = (n, []) := by
  have value : Nat.ofDigitChars 10 (Nat.toDigits 10 n) 0 = n := Nat.ofDigitChars_ten_toDigits
  rw [gather_eq (value.symm ▸ fits), value]

/-- A run of digits is read as far as it goes. -/
theorem digits?_append {run rest : List Char} (digits : ∀ c ∈ run, isDigit c = true) (nonempty : run ≠ [])
    (follows : Follows rest) : digits? (run ++ rest) = some (run, rest) := by
  have taken : (run ++ rest).takeWhile isDigit = run := by
    rw [List.takeWhile_append_of_pos digits, follows.digits_end.1, List.append_nil]
  have left : (run ++ rest).dropWhile isDigit = rest := by
    rw [List.dropWhile_append_of_pos digits, follows.digits_end.2]
  rw [digits?, taken, left]
  cases run with
  | nil => exact absurd rfl nonempty
  | cons c run => rfl

/-- The numeral of a natural has no zero in front, so all of it is read. -/
theorem whole?_toDigits (n : Nat) {rest : List Char} (follows : Follows rest) :
    whole? (Nat.toDigits 10 n ++ rest) = some (Nat.toDigits 10 n, rest) := by
  rcases Nat.eq_zero_or_pos n with rfl | pos
  · rw [Nat.toDigits_zero]
    simp only [whole?, List.singleton_append, follows.head_not_digit, Bool.false_eq_true, if_false]
  · rw [whole?]
    · exact digits?_append (fun c => isDigit_of_mem_toDigits) Nat.toDigits_ne_nil follows
    · intro rest' same
      obtain ⟨c, ds, digits, _⟩ := exists_toDigits n
      rw [digits] at same
      obtain ⟨rfl, _⟩ := List.cons.inj same
      exact toDigits_ne_zero_cons pos ds digits

/-! ## Numbers -/

theorem number?_toDigits {n : Nat} (fits : n < wordBound) {rest : List Char} (follows : Follows rest) :
    number? (Nat.toDigits 10 n ++ rest) = some (.num (.int n), rest) := by
  have read : Number.ofLexeme? ⟨false, Nat.toDigits 10 n, none, none⟩ = some (.int n) := by
    simp only [Number.ofLexeme?, gather_toDigits fits, Bool.not_false, if_true]
  rw [number?]
  · simp only [whole?_toDigits n follows, follows.fraction?_eq, follows.exponent?_eq, read, Option.bind_eq_bind,
      Option.bind_some, Option.pure_def]
  · -- a digit is no sign
    intro cs same
    obtain ⟨c, ds, digits, digit⟩ := exists_toDigits n
    rw [digits] at same
    obtain ⟨rfl, _⟩ := List.cons.inj same
    cases digit

theorem number?_sign {n : Nat} (pos : n ≠ 0) (small : n ≤ twoTo 63) {rest : List Char} (follows : Follows rest) :
    number? ('-' :: Nat.toDigits 10 n ++ rest) = some (.num (.int (-n)), rest) := by
  have fits : n < wordBound := Nat.lt_of_le_of_lt small (by decide)
  have read : Number.ofLexeme? ⟨true, Nat.toDigits 10 n, none, none⟩ = some (.int (-n)) := by
    simp only [Number.ofLexeme?, gather_toDigits fits, Bool.not_true, Bool.false_eq_true, if_false, if_neg pos,
      if_pos small]
  rw [List.cons_append, number?]
  simp only [whole?_toDigits n follows, follows.fraction?_eq, follows.exponent?_eq, read, Option.bind_eq_bind,
    Option.bind_some, Option.pure_def]

/-- **A whole number of 64 bits is read back from its digits.** -/
theorem number?_toString {value : Int} (least : -(twoTo 63 : Int) ≤ value) (fits : value < wordBound) {rest : List Char}
    (follows : Follows rest) : number? ((toString value).toList ++ rest) = some (.num (.int value), rest) := by
  rw [Int.toString_eq_repr, Int.repr_eq_if]
  split
  · rename_i natural
    obtain ⟨n, rfl⟩ := Int.eq_ofNat_of_zero_le natural
    rw [Int.toNat_natCast, Nat.repr_eq_ofList_toDigits, String.toList_ofList]
    exact number?_toDigits (Int.ofNat_lt.mp fits) follows
  · rename_i negative
    obtain ⟨n, rfl⟩ := Int.exists_eq_neg_ofNat (Int.le_of_lt (Int.not_le.mp negative))
    have pos : n ≠ 0 := by
      rintro rfl
      exact negative (by decide)
    have text : ("-" ++ (- -(n : Int)).toNat.repr).toList = '-' :: Nat.toDigits 10 n := by
      rw [Int.neg_neg, Int.toNat_natCast, Nat.repr_eq_ofList_toDigits, String.toList_append]
      simp only [String.toList_ofList, String.reduceToList, List.singleton_append]
    rw [text]
    exact number?_sign pos (by omega) follows

/-- The text of a whole number starts with a digit or a sign. -/
theorem exists_toString (value : Int) : ∃ c cs, (toString value).toList = c :: cs ∧ (isDigit c = true ∨ c = '-') := by
  rw [Int.toString_eq_repr, Int.repr_eq_if]
  split
  · obtain ⟨c, cs, digits, digit⟩ := exists_toDigits value.toNat
    exact ⟨c, cs, by rw [Nat.repr_eq_ofList_toDigits, String.toList_ofList, digits], .inl digit⟩
  · exact ⟨'-', _, String.toList_append, .inr rfl⟩

end GateRunner.Json
