import GateRunner.Tool.Count

/-!
# Parts of lines

`cut` takes parts out of lines by their places, `paste` puts lines side by side, and `fold` breaks long ones.
-/

namespace GateRunner

/-! ## Lists of places -/

/-- The places from a first one to a last one, or from there on. -/
structure Span where
  first : Nat
  last : Option Nat

/-- What is wrong with a list of places. -/
inductive SpanFault
  | zero
  | decreasing
  | badRange
  | noEnds
  | badValue (text : String)

/-- The wording of a fault, for fields or for bytes. -/
def SpanFault.message (fields : Bool) : SpanFault → String
  | .zero => if fields then "fields are numbered from 1" else "byte/character positions are numbered from 1"
  | .decreasing => "invalid decreasing range"
  | .badRange => if fields then "invalid field range" else "invalid byte or character range"
  | .noEnds => "invalid range with no endpoint: -"
  | .badValue text => (if fields then "invalid field value " else "invalid byte/character position ") ++ quoted text

/-- One entry of a list of places. -/
def Span.parse (text : String) : Except SpanFault Span :=
  let number (digits : String) : Except SpanFault Nat :=
    match wholeNatural? digits with
    | some 0 => .error .zero
    | some n => .ok n
    | none => .error (.badValue digits)
  match text.splitOn "-" with
  | [one] => do
    if one = "" then throw .zero
    let n ← number one
    return ⟨n, some n⟩
  | ["", ""] => .error .noEnds
  | ["", last] => do return ⟨1, some (← number last)⟩
  | [first, ""] => do return ⟨← number first, none⟩
  | [first, last] => do
    let first ← number first
    let last ← match wholeNatural? last with
      | some n => pure n
      | none => throw (.badValue last)
    if last < first then throw .decreasing
    return ⟨first, some last⟩
  | _ => .error .badRange

/-- A list of places. -/
def parseSpans (text : String) : Except SpanFault (List Span) :=
  (text.toList.splitOnP (fun c => c = ',' || c = ' ' || c = '\t')).mapM fun part => Span.parse (String.ofList part)

/-- Whether a place is in a list of places. -/
def inSpans (spans : List Span) (place : Nat) : Bool :=
  spans.any fun s => s.first ≤ place && s.last.all (place ≤ ·)

/-- The things in a list that are at chosen places, those at places side by side together. -/
def runsOf {α : Type} (chosen : Nat → Bool) : Nat → List α → List (List α)
  | _, [] => []
  | place, x :: rest =>
    if chosen place then
      match runsOf chosen (place + 1) rest with
      | run :: runs => if chosen (place + 1) && !rest.isEmpty then (x :: run) :: runs else [x] :: run :: runs
      | [] => [[x]]
    else runsOf chosen (place + 1) rest

/-! ## `cut` -/

/-- The complaint about a wrong call of `cut`. -/
def Call.refuseCut (c : Call) (text : String) : Action Nat := c.refuseWithHint text 1

/-- `cut`. -/
def cutProgram : Tool :=
  withOptions
    [valued 'b' "bytes", valued 'c' "characters", valued 'd' "delimiter", valued 'f' "fields", flag 'n' "",
      flag 's' "only-delimited", flag 'z' "zero-terminated", flag '\x01' "complement", valued '\x02' "output-delimiter"] 1
    fun c o => do
      let lists := (o.given.filter fun g => g.1 ∈ ['b', 'c', 'f'])
      let fields := o.has 'f'
      let delimiter := (o.value? 'd').getD "\t"
      match lists with
      | [] => c.refuseCut "you must specify a list of bytes, characters, or fields"
      | _ :: _ :: _ => c.refuseCut "only one list may be specified"
      | [(_, list)] =>
        if 1 < delimiter.length then c.refuseCut "the delimiter must be a single character"
        else if !fields && o.has 'd' then
          c.refuseCut "an input delimiter may be specified only when operating on fields"
        else if !fields && o.has 's' then
          c.refuseCut "suppressing non-delimited lines makes sense\n\tonly when operating on fields"
        else
          match parseSpans list with
          | .error e => c.refuseCut (e.message fields)
          | .ok spans =>
            let chosen (place : Nat) : Bool := inSpans spans place != o.has '\x01'
            let separator := if delimiter = "" then "\x00" else delimiter
            let line (_ : Unit) (text : String) (_ : Bool) : Unit × String :=
              if fields then
                let parts := text.splitOn separator
                if parts.length ≤ 1 then ((), if o.has 's' then "" else text ++ "\n")
                else
                  ((), ((o.value? '\x02').getD separator).intercalate (runsOf chosen 1 parts).flatten ++ "\n")
              else
                let runs := (runsOf chosen 1 text.toList).map String.ofList
                ((), ((o.value? '\x02').getD "").intercalate runs ++ "\n")
            let (_, well) ← (Filter.ofLines line fun _ => false).overOperands c c.complainOf (orInput o.operands)
              ("", ()) true
            return statusOf well

/-! ## `paste` and `fold` -/

/-- The separators that a list of them stands for. -/
def separatorsOf : List Char → List String
  | '\\' :: 'n' :: rest => "\n" :: separatorsOf rest
  | '\\' :: 't' :: rest => "\t" :: separatorsOf rest
  | '\\' :: '\\' :: rest => "\\" :: separatorsOf rest
  | '\\' :: '0' :: rest => "" :: separatorsOf rest
  | c :: rest => String.singleton c :: separatorsOf rest
  | [] => []

/-- Texts joined by separators, each being used in turn. -/
def joinInTurn (separators : List String) : Nat → List String → String
  | _, [] => ""
  | _, [last] => last
  | n, text :: rest => text ++ (separators[n % max separators.length 1]?).getD "" ++ joinInTurn separators (n + 1) rest

/-- `paste`: lines of several files side by side. -/
def pasteProgram : Tool :=
  withOptions [valued 'd' "delimiters", flag 's' "serial", flag 'z' "zero-terminated"] 1 fun c o => do
    let separators := separatorsOf ((o.value? 'd').getD "\t").toList
    let operands := orInput o.operands
    let rec texts : List String → Action (Except (String × PathError) (List (List String)))
      | [] => return .ok []
      | operand :: rest => do
        match ← c.textOf operand with
        | .error e => return .error (operand, e)
        | .ok text =>
          match ← texts rest with
          | .ok more => return .ok (textLines text :: more)
          | .error e => return .error e
    match ← texts operands with
    | .error (operand, e) =>
      c.complainOf operand e
      return 1
    | .ok columns =>
      let inputs := (operands.filter meansInput).length
      let columns := if o.has 's' || inputs ≤ 1 then columns
        else
          let shared := ((operands.zip columns).find? fun (operand, _) => meansInput operand).elim [] (·.2)
          let ranks := operands.zipIdx.map fun (_, i) => ((operands.take i).filter meansInput).length
          (operands.zip (columns.zip ranks)).map fun (operand, lines, rank) =>
            if meansInput operand then (shared.zipIdx.filter fun (_, i) => i % inputs = rank).map (·.1) else lines
      if o.has 's' then .say (ofLines (columns.map (joinInTurn separators 0)))
      else
        let height := (columns.map List.length).foldl max 0
        .say (ofLines ((List.range height).map fun i => joinInTurn separators 0 (columns.map fun l => (l[i]?).getD "")))
      return 0

/-- The column after a character. -/
def columnAfter (bytes : Bool) (column : Nat) (c : Char) : Nat :=
  if bytes then column + 1
  else if c = '\x08' then column - 1 else if c = '\r' then 0 else if c = '\t' then (column / 8 + 1) * 8 else column + 1

/-- The pieces of a line that are no wider than that. -/
def foldLine (width : Nat) (bytes atBlanks : Bool) : Nat → List Char → Nat → List Char → List (List Char)
  | 0, held, _, rest => [held.reverse ++ rest]
  | _, held, _, [] => if held.isEmpty then [] else [held.reverse]
  | fuel + 1, held, column, c :: rest =>
    let next := columnAfter bytes column c
    if width < next && !held.isEmpty then
      let tail := held.takeWhile (fun c => !(c = ' ' || c = '\t'))
      if atBlanks && tail.length < held.length then
        let kept := held.drop tail.length
        kept.reverse :: foldLine width bytes atBlanks fuel [] 0 (tail.reverse ++ c :: rest)
      else held.reverse :: foldLine width bytes atBlanks fuel [] 0 (c :: rest)
    else foldLine width bytes atBlanks fuel (c :: held) next rest

/-- `fold`: long lines broken. -/
def foldProgram : Tool :=
  withOptions [flag 'b' "bytes", flag 's' "spaces", valued 'w' "width"] 1 fun c o => do
    let text := (o.value? 'w').getD "80"
    match (wholeNatural? text).filter (0 < ·) with
    | none => c.refuse ("invalid number of columns: " ++ quoted text) 1
    | some width =>
      let line (_ : Unit) (text : String) (ended : Bool) : Unit × String :=
        let pieces := foldLine width (o.has 'b') (o.has 's') (2 * text.length + 2) [] 0 text.toList
        ((), "\n".intercalate (pieces.map String.ofList) ++ if ended then "\n" else "")
      let (_, well) ← (Filter.ofLines line fun _ => false).overOperands c c.complainOf (orInput o.operands) ("", ()) true
      return statusOf well

end GateRunner
