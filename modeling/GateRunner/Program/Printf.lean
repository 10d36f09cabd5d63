import GateRunner.Number.Notation
import GateRunner.Program.Echo

/-!
# Formatted output: `printf`

A format is text with conversions, each of which takes an argument. The format is gone through again as long as there
are arguments left. The shell and the program of that name share all this; they differ in the escapes they know and in
the wording of their complaints.
-/

namespace GateRunner

/-- The two forms of `printf`. -/
inductive PrintfDialect
  | shell
  | program
deriving DecidableEq

namespace PrintfDialect

/-- The complaint about an argument that is no number. -/
def noNumber (d : PrintfDialect) (arg : String) : String :=
  match d with
  | .shell => arg ++ ": expected numeric value"
  | .program => quoted arg ++ ": expected a numeric value"

/-- The complaint about an argument of which only the front is a number. -/
def notAll (d : PrintfDialect) (arg : String) : String :=
  match d with
  | .shell => arg ++ ": not completely converted"
  | .program => quoted arg ++ ": value not completely converted"

/-- The complaint about a number that is too great. -/
def outOfRange (d : PrintfDialect) (arg : String) : String :=
  (match d with
    | .shell => arg
    | .program => quoted arg) ++ ": Numerical result out of range"

/-- The escapes in a format. -/
def formatEscapes : PrintfDialect → EscapeDialect
  | .shell => shellFormatEscapes
  | .program => programFormatEscapes

/-- The escapes in an argument. -/
def argumentEscapes : PrintfDialect → EscapeDialect
  | .shell => shellEscapes
  | .program => { programEscapes with quote := true }

/-- The status of a call that cannot be carried out. -/
def failure : PrintfDialect → Nat
  | .shell => 2
  | .program => 1

end PrintfDialect

/-- A conversion of a format. -/
structure Conversion where
  flags : List Char
  width : Nat
  precision : Option Nat
  letter : Char

namespace Conversion

/-- Whether a flag is given. -/
def has (v : Conversion) (f : Char) : Bool := v.flags.contains f

/-- A text brought to the width. -/
def pad (v : Conversion) (text : String) : String :=
  let fill := String.ofList (List.replicate (v.width - text.length) ' ')
  if v.has '-' then text ++ fill else fill ++ text

/-- A number brought to the width, zeros going between its front and its digits. -/
def padNumber (v : Conversion) (zeros : Bool) (front digits : String) : String :=
  if zeros && v.has '0' && !v.has '-' then
    front ++ String.ofList (List.replicate (v.width - front.length - digits.length) '0') ++ digits
  else v.pad (front ++ digits)

/-- The sign of a number. -/
def sign (v : Conversion) (negative : Bool) : String :=
  if negative then "-" else if v.has '+' then "+" else if v.has ' ' then " " else ""

/-- A whole number. -/
def whole (v : Conversion) (n : Int) : String :=
  let bits := (n % (wordBound : Int)).toNat
  let raw : String × String := match v.letter with
    | 'o' => ("", String.ofList (Nat.toDigits 8 bits))
    | 'x' => (if v.has '#' && bits ≠ 0 then "0x" else "", String.ofList (Nat.toDigits 16 bits))
    | 'X' => (if v.has '#' && bits ≠ 0 then "0X" else "", String.ofList ((Nat.toDigits 16 bits).map Char.toUpper))
    | 'u' => ("", toString bits)
    | _ => (v.sign (n < 0), toString n.natAbs)
  let digits := match v.precision with
    | some p =>
      if p = 0 && raw.2 = "0" then "" else String.ofList (List.replicate (p - raw.2.length) '0') ++ raw.2
    | none => raw.2
  let digits := if v.letter = 'o' && v.has '#' && !digits.startsWith "0" then "0" ++ digits else digits
  v.padNumber v.precision.isNone raw.1 digits

/-- A fraction. -/
def fraction (v : Conversion) (x : Fraction) : String :=
  let keep := v.has '#'
  let places := v.precision.getD 6
  let digits := match v.letter.toLower with
    | 'e' => x.inPowers places keep
    | 'g' => x.general places keep
    | _ => x.inPlaces places keep
  v.padNumber true (v.sign x.negative) (if v.letter.isUpper then digits.toUpper else digits)

end Conversion

/-- The whole number an argument stands for, and a complaint about it if it is no number. -/
def wholeArgument (d : PrintfDialect) (signed : Bool) (arg : String) : Int × Option String :=
  match arg.toList with
  | '\'' :: c :: _ | '"' :: c :: _ => (c.toNat, none)
  | cs =>
    let isBlank (c : Char) : Bool := c = ' ' || (9 ≤ c.toNat && c.toNat ≤ 13)
    let cs := cs.dropWhile isBlank
    let (negative, digits) := match cs with
      | '-' :: rest => (true, rest)
      | '+' :: rest => (false, rest)
      | rest => (false, rest)
    if arg = "" then (0, none)
    else if !(digits.head?.any Char.isDigit) then (0, some (d.noNumber arg))
    else
      let (n, rest) := leadingNatural digits
      let bound := if signed then if negative then greatest + 1 else greatest else 2 * greatest + 1
      let value : Int := if negative then -(min n bound : Nat) else (min n bound : Nat)
      (value, if bound < n then some (d.outOfRange arg) else if rest.isEmpty then none else some (d.notAll arg))

/-- The fraction an argument stands for, or a word in its place, and a complaint about it if it is no number. -/
def fractionArgument (d : PrintfDialect) (arg : String) : (Fraction ⊕ String) × Option String :=
  let zero : Fraction := ⟨false, 0, 1⟩
  match arg.toList with
  | '\'' :: c :: _ | '"' :: c :: _ => (.inl ⟨false, c.toNat, 1⟩, none)
  | cs =>
    let isBlank (c : Char) : Bool := c = ' ' || (9 ≤ c.toNat && c.toNat ≤ 13)
    let cs := cs.dropWhile isBlank
    let lower := (String.ofList cs).toLower
    if lower ∈ ["inf", "+inf", "infinity", "+infinity"] then (.inr "inf", none)
    else if lower ∈ ["-inf", "-infinity"] then (.inr "-inf", none)
    else if lower ∈ ["nan", "+nan"] then (.inr "nan", none)
    else if lower = "-nan" then (.inr "-nan", none)
    else if arg = "" then (.inl zero, none)
    else
      match Fraction.leading? cs with
      | none => (.inl zero, some (d.noNumber arg))
      | some (x, rest) =>
        let complaint := if rest.isEmpty then none else some (d.notAll arg)
        if d = .shell then
          match x.toDouble? with
          | some y => (.inl y, complaint)
          | none => (.inr (if x.negative then "-inf" else "inf"), some (d.outOfRange arg))
        else (.inl x, complaint)

/-- How a format is gone through: what was written in reverse order, the arguments left, whether any was taken, what
there was to complain about, and whether all output ends. -/
structure Formatting where
  written : List String
  args : List String
  took : Bool
  complaints : List String
  stopped : Bool
  /-- What was wrong with the format itself. -/
  broken : Option String

namespace Formatting

/-- More written. -/
def add (f : Formatting) (text : String) : Formatting := { f with written := text :: f.written }

/-- The next argument. -/
def next (f : Formatting) : String × Formatting := (f.args.headD "", { f with args := f.args.tail, took := true })

/-- A complaint, if there is one. -/
def complain (f : Formatting) (text : Option String) : Formatting := { f with complaints := f.complaints ++ text.toList }

/-- A number in a conversion: digits, or an asterisk for an argument. -/
def number (d : PrintfDialect) (f : Formatting) (text : List Char) : Option Int × List Char × Formatting :=
  match text with
  | '*' :: rest =>
    let (arg, f) := f.next
    let (n, complaint) := wholeArgument d true arg
    (some n, rest, f.complain complaint)
  | _ =>
    let digits := text.takeWhile Char.isDigit
    (if digits.isEmpty then none else some (digitsValue 10 digits : Nat), text.drop digits.length, f)

/-- A conversion carried out. -/
def convert (d : PrintfDialect) (f : Formatting) (v : Conversion) : Formatting :=
  let cut (text : String) : String := match v.precision with
    | some p => String.ofList (text.toList.take p)
    | none => text
  let (arg, g) := f.next
  if v.letter = 's' then g.add (v.pad (cut arg))
  else if v.letter = 'b' then
    let (text, stop) := unescapeText d.argumentEscapes arg
    { g.add (v.pad (cut text)) with stopped := stop }
  else if v.letter = 'c' then
    let char := if arg = "" then (if d = .shell then "\x00" else "") else String.ofList (arg.toList.take 1)
    g.add (v.pad char)
  else if v.letter ∈ ['d', 'i', 'o', 'u', 'x', 'X'] then
    let (n, complaint) := wholeArgument d (v.letter = 'd' || v.letter = 'i') arg
    (g.complain complaint).add (v.whole n)
  else
    let (x, complaint) := fractionArgument d arg
    (g.complain complaint).add (match x with
      | .inl x => v.fraction x
      | .inr word => v.pad (if v.letter.isUpper then word.toUpper else word))

/-- The letters of conversions. -/
def conversionLetters : List Char :=
  ['s', 'b', 'c', 'd', 'i', 'o', 'u', 'x', 'X', 'e', 'E', 'f', 'F', 'g', 'G']

/-- A conversion after its percent sign, with the text after it; or what is wrong with it. -/
def readConversion (d : PrintfDialect) (f : Formatting) (text : List Char) :
    Except String (Conversion × List Char × Formatting) :=
  let isFlag (c : Char) : Bool := c ∈ ['-', '+', ' ', '#', '0']
  let flags := text.takeWhile isFlag
  let (width, rest, f) := number d f (text.drop flags.length)
  let (precision, rest, f) := match rest with
    | '.' :: rest =>
      let (p, rest, f) := number d f rest
      (some (p.getD 0), rest, f)
    | rest => (none, rest, f)
  let rest := if d = .program then rest.dropWhile (fun c => c ∈ ['h', 'l', 'L', 'j', 't', 'z']) else rest
  let precision := precision.bind fun p => if p < 0 then none else some p.toNat
  let width := width.getD 0
  let flags := if width < 0 then '-' :: flags else flags
  let source := "%" ++ String.ofList (text.take (text.length - rest.length + 1))
  match rest with
  | [] => .error (if d = .shell then "missing format character" else source ++ ": invalid conversion specification")
  | letter :: rest =>
    if letter ∈ conversionLetters then .ok (⟨flags, width.natAbs, precision, letter⟩, rest, f)
    else
      .error (source ++ if d = .shell then ": invalid directive" else ": invalid conversion specification")

/-- One way through a format. -/
def once (d : PrintfDialect) : Nat → Formatting → List Char → Formatting
  | 0, f, _ => f
  | _, f, [] => f
  | fuel + 1, f, '\\' :: rest =>
    match readEscape d.formatEscapes rest with
    | some (chars, rest) => once d fuel (f.add (String.ofList chars)) rest
    | none => { f with stopped := true }
  | fuel + 1, f, '%' :: '%' :: rest => once d fuel (f.add "%") rest
  | fuel + 1, f, '%' :: rest =>
    match readConversion d f rest with
    | .error message => { f with broken := some message }
    | .ok (v, rest, f) =>
      let f := convert d f v
      if f.stopped then f else once d fuel f rest
  | fuel + 1, f, c :: rest => once d fuel (f.add (.singleton c)) rest

/-- A format gone through until the arguments are used up. -/
def all (d : PrintfDialect) (format : List Char) : Nat → Formatting → Formatting
  | 0, f => f
  | fuel + 1, f =>
    let f := once d (format.length + 1) { f with took := false } format
    if f.took && !f.args.isEmpty && !f.stopped && f.broken.isNone then all d format fuel f else f

end Formatting

/-- What comes of a format and arguments. -/
def formatted (d : PrintfDialect) (format : String) (args : List String) : Formatting :=
  Formatting.all d format.toList (args.length + 1) ⟨[], args, false, [], false, none⟩

/-- Writes what a format makes of arguments, after the complaints under the name given. -/
def printfWith (d : PrintfDialect) (name : String) (format : String) (args : List String) : Action Nat := do
  let f := formatted d format args
  f.complaints.forM fun text => Action.complain (name ++ ": " ++ text)
  let status ← match f.broken with
    | some message =>
      .complain (name ++ ": " ++ message)
      pure d.failure
    | none =>
      if d = .program && !f.took && !f.stopped && f.args ≠ [] then
        .complain (name ++ ": warning: ignoring excess arguments, starting with " ++ quoted (f.args.headD ""))
      pure (if f.complaints.isEmpty then 0 else 1)
  .say (String.join f.written.reverse)
  return status

/-- `printf` as a program. -/
def printfProgram : Tool := fun c =>
  let args := match c.args with
    | "--" :: rest => rest
    | args => args
  match args with
  | [] => c.refuseWithHint "missing operand" 1
  | format :: args => printfWith .program c.name format args

end GateRunner
