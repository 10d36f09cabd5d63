import GateRunner.Number.Digits
import GateRunner.Pattern.Basic
import GateRunner.Pattern.Flags
import GateRunner.Pattern.Property

/-!
# Escapes of patterns

What a backslash and the text after it stand for: a character by itself or by its number, a set of characters by a
letter or by a property, or a place between characters.
-/

namespace GateRunner.Pattern

/-- What a primitive of a pattern is, before it is known whether it stands in brackets. -/
inductive Primitive
  | literal (c : Char)
  | cls (members : CharSet)
  | place (a : Assertion)

/-- The characters that mean something in a pattern. -/
def metaCharacters : List Char :=
  ['\\', '.', '+', '*', '?', '(', ')', '|', '[', ']', '\x7b', '\x7d', '^', '$', '#', '&', '-', '~']

/-- Whether a character stands for itself after a backslash. -/
def standsForItself (c : Char) : Bool :=
  c ∈ metaCharacters || (c.toNat < 0x80 && !c.isAlphanum && c ≠ '<' && c ≠ '>')

/-! ## Text in braces -/

/-- The characters up to a closing brace, and the text after it. -/
def untilBrace? (f : Flags) : Nat → List Char → Option (List Char × List Char)
  | 0, _ => none
  | fuel + 1, text =>
    match skip f text with
    | [] => none
    | '\x7d' :: rest => some ([], rest)
    | c :: rest => (untilBrace? f fuel rest).map fun (chars, rest) => (c :: chars, rest)

/-- The characters of a text in braces, after the opening one, and the text after the closing one. -/
def braced? (f : Flags) (text : List Char) : Option (List Char × List Char) := untilBrace? f (text.length + 1) text

/-- A number of characters, and the text after them. -/
def someChars? (f : Flags) : Nat → List Char → Option (List Char × List Char)
  | 0, text => some ([], text)
  | n + 1, text =>
    match skip f text with
    | [] => none
    | c :: rest => (someChars? f n rest).map fun (chars, rest) => (c :: chars, rest)

/-! ## Characters by their number -/

/-- The character with a number in hexadecimal digits, if that is one. -/
def hexChar? (digits : List Char) : Option Char := do
  if digits.isEmpty then none
  let value ← digits.foldlM (fun acc c => (hexDigit? c).map (acc * 16 + ·)) 0
  if value.isValidChar then some (Char.ofNat value) else none

/-- A character by its number: in braces, or with a set number of digits. Where the flag for all scripts is cleared, two
digits are a byte, and one past ASCII is no text. -/
def hexEscape? (f : Flags) (width : Nat) (text : List Char) : Option (Char × List Char) :=
  match skip f text with
  | '\x7b' :: rest => do
    let (digits, rest) ← braced? f rest
    return (← hexChar? digits, rest)
  | text => do
    let (digits, rest) ← someChars? f width text
    let c ← hexChar? digits
    if width = 2 && !f.unicode && 0x80 ≤ c.toNat then none else some (c, rest)

/-! ## Sets -/

/-- The set of a class letter, which is the complement for a capital. -/
def classOf? (f : Flags) (letter : Char) : Option CharSet :=
  let digits := if f.unicode then decimalDigits else [(0x30, 0x39)]
  let blanks := if f.unicode then whiteSpace else [(0x09, 0x0D), (0x20, 0x20)]
  let words := if f.unicode then wordCharacters else asciiWord
  match letter with
  | 'd' => some digits
  | 's' => some blanks
  | 'w' => some words
  | 'D' => some (CharSet.complement digits)
  | 'S' => some (CharSet.complement blanks)
  | 'W' => some (CharSet.complement words)
  | _ => none

/-- The text before a mark and the text after it, if the mark stands in it. -/
def splitAtMark? (mark : List Char) : List Char → Option (List Char × List Char)
  | [] => none
  | c :: rest =>
    if mark.isPrefixOf (c :: rest) then some ([], (c :: rest).drop mark.length)
    else (splitAtMark? mark rest).map fun (head, tail) => (c :: head, tail)

/-- The set of a property by what stands in its braces: a name, or a name with a value. -/
def setOfProperty? (text : List Char) : Option CharSet :=
  match splitAtMark? ['!', '='] text <|> splitAtMark? [':'] text <|> splitAtMark? ['='] text with
  | some (name, value) => CharSet.ofNameAndValue? name value
  | none => CharSet.ofName? text

/-- A property after its letter, in braces or named by one character, or its complement. Without the flag for all
scripts there are none. -/
def property? (f : Flags) (negated : Bool) (text : List Char) : Option (CharSet × List Char) :=
  let read := match skip f text with
    | '\x7b' :: rest => do
      let (name, rest) ← braced? f rest
      return (← setOfProperty? name, rest)
    | [] | '\\' :: _ => none
    | c :: rest => (CharSet.ofName? [c]).map (·, rest)
  if f.unicode then
    read.map fun (s, rest) => (if negated then CharSet.complement (underCase f s) else underCase f s, rest)
  else none

/-! ## Places -/

/-- The kinds of word boundary that are named in braces. -/
def namedBoundary? (unicode : Bool) (name : String) : Option Assertion :=
  if name = "start" then some (.wordStart unicode)
  else if name = "end" then some (.wordEnd unicode)
  else if name = "start-half" then some (.noWordBefore unicode)
  else if name = "end-half" then some (.noWordAfter unicode)
  else none

/-- A word boundary, whose kind may be named in braces; braces that begin otherwise belong to a repetition. -/
def boundary? (f : Flags) (text : List Char) : Option (Primitive × List Char) :=
  match text with
  | '\x7b' :: rest =>
    if (skip f rest).head?.any (fun c => c.isAlpha || c = '-') then do
      let (name, rest) ← braced? f rest
      return (.place (← namedBoundary? f.unicode (String.ofList name)), rest)
    else some (.place (.boundary f.unicode), text)
  | _ => some (.place (.boundary f.unicode), text)

/-! ## Escapes -/

/-- What a backslash and the text after it stand for. -/
def escape? (f : Flags) : List Char → Option (Primitive × List Char)
  | [] => none
  | c :: rest =>
    if standsForItself c then some (.literal c, rest)
    else
      match classOf? f c with
      | some members => some (.cls members, rest)
      | none =>
        match c with
        | 'x' => (hexEscape? f 2 rest).map fun (c, rest) => (.literal c, rest)
        | 'u' => (hexEscape? f 4 rest).map fun (c, rest) => (.literal c, rest)
        | 'U' => (hexEscape? f 8 rest).map fun (c, rest) => (.literal c, rest)
        | 'p' => (property? f false rest).map fun (s, rest) => (.cls s, rest)
        | 'P' => (property? f true rest).map fun (s, rest) => (.cls s, rest)
        | 'a' => some (.literal '\x07', rest)
        | 'f' => some (.literal '\x0c', rest)
        | 't' => some (.literal '\t', rest)
        | 'n' => some (.literal '\n', rest)
        | 'r' => some (.literal '\r', rest)
        | 'v' => some (.literal '\x0b', rest)
        | 'A' => some (.place .textStart, rest)
        | 'z' => some (.place .textEnd, rest)
        | 'b' => boundary? f rest
        | 'B' => some (.place (.noBoundary f.unicode), rest)
        | '<' => some (.place (.wordStart f.unicode), rest)
        | '>' => some (.place (.wordEnd f.unicode), rest)
        | _ => none

end GateRunner.Pattern
