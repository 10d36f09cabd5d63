import GateRunner.Program.Filter
import GateRunner.Program.Options
import GateRunner.Program.Printf

/-!
# Sequences of numbers: `seq`

The numbers from a first to a last one in equal steps. They are computed exactly, as whole numbers of a power of ten,
and written with as many places as the operands have.
-/

namespace GateRunner

/-- An operand: its value, the width it is written in, and how many places it has. -/
structure SequenceEnd where
  value : Fraction
  width : Nat
  places : Nat

/-- An operand by its text. -/
def sequenceEnd? (text : String) : Option SequenceEnd :=
  let isBlank (c : Char) : Bool := c = ' ' || (9 ≤ c.toNat && c.toNat ≤ 13)
  let body := text.toList.dropWhile fun c => isBlank c || c = '+'
  match body with
  | '0' :: x :: _ =>
    if x = 'x' || x = 'X' then
      match leadingNatural body with
      | (n, []) => some ⟨⟨false, n, 1⟩, (toString n).length, 0⟩
      | _ => none
    else decimal body
  | _ => decimal body
where
  /-- An operand in decimal notation. -/
  decimal (body : List Char) : Option SequenceEnd :=
    match Fraction.leading? body with
    | some (value, []) =>
      let isPower (c : Char) : Bool := c = 'e' || c = 'E'
      let mantissa := body.takeWhile fun c => !isPower c
      let power := ((integer? (String.ofList ((body.drop mantissa.length).drop 1))).getD 0)
      let point := mantissa.dropWhile (· ≠ '.')
      let places := point.length - 1
      let whole := mantissa.takeWhile (· ≠ '.')
      let width : Nat :=
        if point.isEmpty then whole.length
        else if places = 0 then whole.length
        else mantissa.length + if (whole.getLast?).any Char.isDigit then 0 else 1
      if power < 0 then
        some ⟨value, (if point.isEmpty || places = 0 then width + 1 else width) + power.natAbs, places + power.natAbs⟩
      else
        let raised := places - min places power.natAbs
        let width := if !point.isEmpty && raised = 0 && places ≠ 0 then width - 1 else width
        some ⟨value, width + (power.natAbs - min places power.natAbs), raised⟩
    | _ => none

/-- What is wrong with a format, and the parts of one that is not: what goes before the number, how the number is
written, and what comes after it. -/
def sequenceFormat (text : String) : Except String (String × Conversion × String) :=
  let shown := "format " ++ quoted text
  let rec literal : List Char → List Char × List Char
    | '%' :: '%' :: rest => let (a, b) := literal rest; ('%' :: a, b)
    | '%' :: rest => ([], '%' :: rest)
    | c :: rest => let (a, b) := literal rest; (c :: a, b)
    | [] => ([], [])
  let (before, rest) := literal text.toList
  match rest with
  | [] => .error (shown ++ " has no % directive")
  | _ :: rest =>
    let flags := rest.takeWhile fun c => c ∈ ['-', '+', '#', '0', ' ', '\'']
    let rest := rest.drop flags.length
    let width := rest.takeWhile Char.isDigit
    let rest := rest.drop width.length
    let (precision, rest) := match rest with
      | '.' :: after => (some (digitsValue 10 (after.takeWhile Char.isDigit)), after.dropWhile Char.isDigit)
      | _ => (none, rest)
    let rest := if rest.head? = some 'L' then rest.drop 1 else rest
    match rest with
    | [] => .error (shown ++ " ends in %")
    | letter :: rest =>
      if !(letter ∈ ['a', 'A', 'e', 'E', 'f', 'F', 'g', 'G']) then
        .error (shown ++ " has unknown %" ++ String.singleton letter ++ " directive")
      else
        let (after, rest) := literal rest
        if !rest.isEmpty then .error (shown ++ " has too many % directives")
        else .ok (String.ofList before, ⟨flags, digitsValue 10 width, precision, letter⟩, String.ofList after)

/-- A whole number of a unit as a fraction. -/
def fractionOf (n : Int) (unit : Nat) : Fraction := ⟨n < 0, n.natAbs, unit⟩

/-- A fraction as a whole number of a unit that divides it. -/
def Fraction.inUnits (x : Fraction) (unit : Nat) : Int :=
  let n : Int := (x.num * unit / x.den : Nat)
  if x.negative then -n else n

/-- How many numbers are written at once. -/
def sequenceBlock : Nat := 512

/-- Writes numbers, block by block. -/
def sequenceAction (shown : Int → String) (between : String) (step : Int) : Nat → Int → Nat → Action Nat
  | 0, _, _ => return 0
  | fuel + 1, first, count =>
    .look fun _ => do
      let here := min count sequenceBlock
      let texts := (List.range here).map fun (i : Nat) => shown (first + i * step)
      let isLast := count ≤ sequenceBlock
      .say (between.intercalate texts ++ if isLast then "\n" else between)
      if isLast then return 0
      else sequenceAction shown between step fuel (first + (here : Int) * step) (count - here)

/-- The arguments with operands that begin with a minus sign kept apart from options. -/
def withNegativeOperands : List String → List String
  | [] => []
  | arg :: rest =>
    match arg.toList with
    | '-' :: c :: _ =>
      if c.isDigit || c = '.' then "--" :: arg :: rest
      else if arg = "--" then arg :: rest
      else if (arg.endsWith "s" || arg.endsWith "f") && !arg.startsWith "--" then
        arg :: match rest with
          | value :: more => value :: withNegativeOperands more
          | [] => []
      else arg :: withNegativeOperands rest
    | _ => arg :: rest

/-- `seq`. -/
def seqProgram : Tool := fun c =>
  match readOptionsFrom
      [valued 's' "separator", valued 'f' "format", flag 'w' "equal-width"] true none (withNegativeOperands c.args) with
  | .error e => c.refuseWithHint e.message 1
  | .ok o =>
    let bad (text : String) : Action Nat := c.refuseWithHint ("invalid floating point argument: " ++ quoted text) 1
    match o.operands with
    | [] => c.refuseWithHint "missing operand" 1
    | _ :: _ :: _ :: extra :: _ => c.refuseWithHint ("extra operand " ++ quoted extra) 1
    | operands =>
      match operands.find? (fun text => (sequenceEnd? text).isNone) with
      | some text => bad text
      | none =>
        let one : SequenceEnd := ⟨⟨false, 1, 1⟩, 1, 0⟩
        let ends := operands.filterMap sequenceEnd?
        let (first, step, last) := match ends with
          | [last] => (one, one, last)
          | [first, last] => (first, one, last)
          | [first, step, last] => (first, step, last)
          | _ => (one, one, one)
        if step.value.num = 0 then
          c.refuseWithHint ("invalid Zero increment value: " ++ quoted ((operands[1]?).getD "")) 1
        else if o.has 'f' && o.has 'w' then
          c.refuseWithHint "format string may not be specified when printing equal width strings" 1
        else
          let unit := tenTo (max first.places (max step.places last.places))
          let (a, d, z) := (first.value.inUnits unit, step.value.inUnits unit, last.value.inUnits unit)
          let span := if 0 < d then z - a else a - z
          let count := if span < 0 then 0 else span.toNat / d.natAbs + 1
          let places := max first.places step.places
          let firstWidth := first.width + (places - first.places) + if first.places = 0 && 0 < places then 1 else 0
          let lastWidth := last.width + places - last.places +
            (if last.places = 0 && 0 < places then 1 else 0) - if 0 < last.places && places = 0 then 1 else 0
          let width := if o.has 'w' then max firstWidth lastWidth else 0
          let plain : Conversion := ⟨['0'], width, some places, 'f'⟩
          match sequenceFormat ((o.value? 'f').getD "%g") with
          | .error message => c.refuse message 1
          | .ok (before, conversion, after) =>
            let shown (n : Int) : String :=
              if o.has 'f' then before ++ conversion.fraction (fractionOf n unit) ++ after
              else plain.fraction (fractionOf n unit)
            if count = 0 then return 0
            else sequenceAction shown ((o.value? 's').getD "\n") d (count / sequenceBlock + 1) a count

end GateRunner
