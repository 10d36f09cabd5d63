import GateRunner.Number.Digits
import GateRunner.Program.Action

/-!
# Escapes, and `echo`

An escape begins with a backslash and stands for one character. Which there are depends on who reads them: the shell's
own `echo`, the program of that name, and `printf` in both forms.
-/

namespace GateRunner

/-- Which escapes are known. -/
structure EscapeDialect where
  /-- Octal numbers begin with a zero that is not one of their three digits. -/
  leadingZero : Bool
  /-- Octal numbers may begin with any octal digit. -/
  bareOctal : Bool
  /-- Hexadecimal numbers after `x`. -/
  hexadecimal : Bool
  /-- A quotation mark. -/
  quote : Bool

/-- The escapes of the shell's own `echo`, and of `%b` in its `printf`. -/
def shellEscapes : EscapeDialect := ⟨true, true, false, false⟩

/-- The escapes of a format in the shell's own `printf`. -/
def shellFormatEscapes : EscapeDialect := ⟨false, true, false, false⟩

/-- The escapes of the program `echo`. -/
def programEscapes : EscapeDialect := ⟨true, true, true, false⟩

/-- The escapes of a format in the program `printf`. -/
def programFormatEscapes : EscapeDialect := ⟨false, true, true, true⟩

/-- The character a letter stands for after a backslash. -/
def escapeLetter? : Char → Option Char
  | 'a' => some '\x07'
  | 'b' => some '\x08'
  | 'e' => some '\x1b'
  | 'f' => some '\x0c'
  | 'n' => some '\n'
  | 'r' => some '\r'
  | 't' => some '\t'
  | 'v' => some '\x0b'
  | '\\' => some '\\'
  | _ => none

/-- The character of a number, of which a byte is kept. -/
def byteChar (n : Nat) : Char := Char.ofNat (n % 256)

/-- What an escape stands for after its backslash, with the text after it. None is the end of all output. -/
def readEscape (d : EscapeDialect) (text : List Char) : Option (List Char × List Char) :=
  match text with
  | [] => some (['\\'], [])
  | 'c' :: _ => none
  | c :: rest =>
    match escapeLetter? c with
    | some letter => some ([letter], rest)
    | none =>
      if c = '"' && d.quote then some (['"'], rest)
      else if c = '0' && d.leadingZero then
        let digits := (rest.take 3).takeWhile isOctal
        some ([byteChar (digitsValue 8 digits)], rest.drop digits.length)
      else if isOctal c && d.bareOctal then
        let digits := (text.take 3).takeWhile isOctal
        some ([byteChar (digitsValue 8 digits)], text.drop digits.length)
      else if c = 'x' && d.hexadecimal then
        let digits := (rest.take 2).takeWhile (fun h => (hexDigit? h).isSome)
        if digits.isEmpty then some (['\\', 'x'], rest)
        else some ([byteChar (digitsValue 16 digits)], rest.drop digits.length)
      else some (['\\', c], rest)

/-- A text with its escapes carried out, and whether one of them ends all output. -/
def unescape (d : EscapeDialect) : Nat → List Char → List Char → String × Bool
  | 0, seen, _ => (String.ofList seen.reverse, false)
  | _, seen, [] => (String.ofList seen.reverse, false)
  | fuel + 1, seen, '\\' :: rest =>
    match readEscape d rest with
    | some (chars, rest) => unescape d fuel (chars.reverse ++ seen) rest
    | none => (String.ofList seen.reverse, true)
  | fuel + 1, seen, c :: rest => unescape d fuel (c :: seen) rest

/-- A text with its escapes carried out. -/
def unescapeText (d : EscapeDialect) (text : String) : String × Bool := unescape d (text.length + 1) [] text.toList

/-- `echo` as the shell has it: `-n` leaves out the end of the line, and escapes are carried out. -/
def echoInShell : Tool := fun c => do
  let (bare, args) := match c.args with
    | "-n" :: rest => (true, rest)
    | args => (false, args)
  let (text, stop) := unescapeText shellEscapes (" ".intercalate args)
  .say (if bare || stop then text else text.push '\n')
  return 0

/-- `echo` as a program of its own: options `-n`, `-e` and `-E`, escapes only on demand. -/
def echoProgram : Tool := fun c => do
  let isOption (a : String) : Bool :=
    a.startsWith "-" && 1 < a.length && (a.toList.drop 1).all (fun l => l = 'n' || l = 'e' || l = 'E')
  let letters := (c.args.takeWhile isOption).flatMap (fun a => a.toList.drop 1)
  let text := " ".intercalate (c.args.dropWhile isOption)
  let escapes := (letters.filter (· ≠ 'n')).getLast? = some 'e'
  let (text, stop) := if escapes then unescapeText programEscapes text else (text, false)
  .say (if letters.contains 'n' || stop then text else text.push '\n')
  return 0

end GateRunner
