import GateRunner.Json.Value

/-!
# Reading JSON texts

`Json.parse?` reads one value with nothing but blanks around it and refuses every other text. Blanks are the space, the
tab, the line feed and the carriage return. A piece that is well formed but stands for no value is read as
`Json.unreadable`, and an object with such a name among its fields is unreadable as a whole.

Every step takes at least one character, so the number of characters bounds the number of steps.
-/

namespace GateRunner.Json

/-- What a reading step gives: a value and the text after it. -/
abbrev Reading (α : Type) := Option (α × List Char)

/-- Whether a character may stand between the tokens. -/
def isBlank (c : Char) : Bool := c = ' ' || c = '\t' || c = '\n' || c = '\r'

/-- The text after its leading blanks. -/
def skipBlanks (text : List Char) : List Char := text.dropWhile isBlank

/-- Whether a character is a decimal digit. -/
def isDigit (c : Char) : Bool := '0' ≤ c && c ≤ '9'

/-- A run of digits that is not empty. -/
def digits? (text : List Char) : Reading (List Char) :=
  match text.takeWhile isDigit with
  | [] => none
  | run => some (run, text.dropWhile isDigit)

/-- The digits before the point: a zero, or a run that starts with no zero. -/
def whole? (text : List Char) : Reading (List Char) :=
  match text with
  | '0' :: rest => if rest.head?.any isDigit then none else some (['0'], rest)
  | _ => digits? text

/-- The digits after a point, if there is a point. -/
def fraction? (text : List Char) : Reading (Option (List Char)) :=
  match text with
  | '.' :: rest => (digits? rest).map (fun (run, rest) => (some run, rest))
  | _ => some (none, text)

/-- The exponent, if there is one: whether it is below zero, and its digits. -/
def exponent? (text : List Char) : Reading (Option (Bool × List Char)) :=
  match text with
  | c :: rest =>
    if c = 'e' || c = 'E' then
      let (below, rest) :=
        match rest with
        | '-' :: rest => (true, rest)
        | '+' :: rest => (false, rest)
        | _ => (false, rest)
      (digits? rest).map (fun (run, rest) => (some (below, run), rest))
    else some (none, text)
  | [] => some (none, text)

/-- A number. -/
def number? (text : List Char) : Option (Json × List Char) := do
  let (negative, rest) := match text with
    | '-' :: rest => (true, rest)
    | _ => (false, text)
  let (whole, rest) ← whole? rest
  let (fraction, rest) ← fraction? rest
  let (exponent, rest) ← exponent? rest
  let value := match Number.ofLexeme? ⟨negative, whole, fraction, exponent⟩ with
    | some n => Json.num n
    | none => .unreadable
  return (value, rest)

/-- The value of a hexadecimal digit. -/
def hexDigit? (c : Char) : Option Nat :=
  if '0' ≤ c && c ≤ '9' then some (c.toNat - '0'.toNat)
  else if 'a' ≤ c && c ≤ 'f' then some (c.toNat - 'a'.toNat + 10)
  else if 'A' ≤ c && c ≤ 'F' then some (c.toNat - 'A'.toNat + 10)
  else none

/-- Four hexadecimal digits. -/
def unit? : List Char → Option (Nat × List Char)
  | a :: b :: c :: d :: rest => do
    let a ← hexDigit? a
    let b ← hexDigit? b
    let c ← hexDigit? c
    let d ← hexDigit? d
    return (((a * 16 + b) * 16 + c) * 16 + d, rest)
  | _ => none

/-- The character a letter stands for after a backslash. -/
def escapedChar? : Char → Option Char
  | '"' => some '"'
  | '\\' => some '\\'
  | '/' => some '/'
  | 'b' => some '\x08'
  | 'f' => some '\x0c'
  | 'n' => some '\n'
  | 'r' => some '\r'
  | 't' => some '\t'
  | _ => none

/-- Whether a 16-bit unit is the first half of a pair. -/
def isHigh (unit : Nat) : Bool := 0xD800 ≤ unit && unit < 0xDC00

/-- Whether a 16-bit unit is the second half of a pair. -/
def isLow (unit : Nat) : Bool := 0xDC00 ≤ unit && unit < 0xE000

/-- The character of a pair of halves. -/
def pairChar (high low : Nat) : Char := Char.ofNat (0x10000 + (high - 0xD800) * 0x400 + (low - 0xDC00))

/-- The rest of a text in quotation marks, read onto the characters so far; none for them once a half of a pair has
stood alone. -/
def stringRest? : Nat → Option (List Char) → List Char → Reading (Option String)
  | 0, _, _ => none
  | fuel + 1, seen, text =>
    match text with
    | [] => none
    | '"' :: rest => some (seen.map (fun cs => String.ofList cs.reverse), rest)
    | '\\' :: 'u' :: rest =>
      match unit? rest with
      | none => none
      | some (unit, rest) =>
        if isHigh unit then
          match rest with
          | '\\' :: 'u' :: after =>
            match unit? after with
            | none => none
            | some (low, beyond) =>
              if isLow low then stringRest? fuel (seen.map (pairChar unit low :: ·)) beyond
              else stringRest? fuel none rest
          | _ => stringRest? fuel none rest
        else if isLow unit then stringRest? fuel none rest
        else stringRest? fuel (seen.map (Char.ofNat unit :: ·)) rest
    | '\\' :: c :: rest =>
      match escapedChar? c with
      | none => none
      | some c => stringRest? fuel (seen.map (c :: ·)) rest
    | c :: rest => if c.toNat < 0x20 then none else stringRest? fuel (seen.map (c :: ·)) rest

/-- A text in quotation marks, whose opening mark has been read. -/
def string? (text : List Char) : Reading (Option String) := stringRest? (text.length + 1) (some []) text

/-- The object of fields that have been read in reverse order, unreadable if a name was. -/
def objectOf (seen : List (Option String × Json)) : Json :=
  match seen.reverse.mapM (fun (name, value) => name.map (·, value)) with
  | some fields => .obj fields
  | none => .unreadable

/-- A word, if the text starts with it. -/
def word (letters : List Char) (value : Json) (text : List Char) : Reading Json :=
  if letters.isPrefixOf text then some (value, text.drop letters.length) else none

mutual

/-- A value, with blanks before it. -/
def value? : Nat → List Char → Reading Json
  | 0, _ => none
  | fuel + 1, text =>
    match skipBlanks text with
    | [] => none
    | '"' :: rest => (string? rest).map (fun (s, rest) => ((s.map Json.str).getD .unreadable, rest))
    | '[' :: rest =>
      match skipBlanks rest with
      | ']' :: rest => some (.arr [], rest)
      | _ => items? fuel [] rest
    | '\x7b' :: rest =>
      match skipBlanks rest with
      | '\x7d' :: rest => some (.obj [], rest)
      | _ => fields? fuel [] rest
    | 't' :: rest => word "rue".toList (.bool true) rest
    | 'f' :: rest => word "alse".toList (.bool false) rest
    | 'n' :: rest => word "ull".toList .null rest
    | text => number? text

/-- The items of an array from one on, read onto those before it. -/
def items? : Nat → List Json → List Char → Reading Json
  | 0, _, _ => none
  | fuel + 1, seen, text =>
    match value? fuel text with
    | none => none
    | some (item, rest) =>
      match skipBlanks rest with
      | ']' :: rest => some (.arr (item :: seen).reverse, rest)
      | ',' :: rest => items? fuel (item :: seen) rest
      | _ => none

/-- The fields of an object from one on, read onto those before it. -/
def fields? : Nat → List (Option String × Json) → List Char → Reading Json
  | 0, _, _ => none
  | fuel + 1, seen, text =>
    match skipBlanks text with
    | '"' :: rest =>
      match string? rest with
      | none => none
      | some (name, rest) =>
        match skipBlanks rest with
        | ':' :: rest =>
          match value? fuel rest with
          | none => none
          | some (value, rest) =>
            match skipBlanks rest with
            | '\x7d' :: rest => some (objectOf ((name, value) :: seen), rest)
            | ',' :: rest => fields? fuel ((name, value) :: seen) rest
            | _ => none
        | _ => none
    | _ => none

end

/-- The value a text holds, if it holds one value and nothing else. -/
def parse? (text : String) : Option Json :=
  let chars := text.toList
  match value? (chars.length + 1) chars with
  | some (value, rest) => if (skipBlanks rest).isEmpty then some value else none
  | none => none

/-- The document a text holds. -/
def document? (text : String) : Option Json := (parse? text).bind (canonical? nestingLimit)

end GateRunner.Json
