import GateRunner.Program.Quoting

/-!
# Filters

A filter turns a text into another one part after the other, and keeps something in mind on the way. It is run over the
input or over files, and may stop before their end.
-/

namespace GateRunner

/-- What a filter does with the next part of a text and at the end of a text, and when it has had enough. -/
structure Filter (σ : Type) where
  block : σ → String → σ × String
  finish : σ → σ × String
  stops : σ → Bool

namespace Filter

/-- How many parts of the input are read at most. -/
def blockLimit : Nat := 10000000

/-- A filter that keeps nothing in mind. -/
def ofMap (f : String → String) : Filter Unit := ⟨fun _ text => ((), f text), fun _ => ((), ""), fun _ => false⟩

/-- The complete lines of a text, and what is left of it. -/
def cutLines (text : String) : List String × String :=
  let lines := text.splitOn "\n"
  (lines.dropLast, lines.getLast?.getD "")

/-- Goes through lines until the filter has had enough. -/
def overLines {σ : Type} (line : σ → String → Bool → σ × String) (stops : σ → Bool) :
    List String → σ → List String → σ × List String
  | [], s, seen => (s, seen)
  | text :: rest, s, seen =>
    if stops s then (s, seen)
    else
      let (s, out) := line s text true
      overLines line stops rest s (out :: seen)

/-- A filter by what it makes of each line, given without its end; the last line may have none. -/
def ofLines {σ : Type} (line : σ → String → Bool → σ × String) (stops : σ → Bool) : Filter (String × σ) :=
  { block := fun (held, s) text =>
      let (lines, rest) := cutLines (held ++ text)
      let (s, out) := overLines line stops lines s []
      ((rest, s), String.join out.reverse),
    finish := fun (held, s) =>
      if held = "" || stops s then (("", s), "")
      else
        let (s, out) := line s held false
        (("", s), out),
    stops := fun (_, s) => stops s }

variable {σ : Type}

/-- Runs over the input. -/
def overInput (f : Filter σ) : Nat → σ → Action σ
  | 0, s => return s
  | fuel + 1, s => do
    let text ← .block
    if text = "" then
      let (s, out) := f.finish s
      .say out
      return s
    else
      let (s, out) := f.block s text
      .say out
      if f.stops s then return s else f.overInput fuel s

/-- Runs over the input and takes no line more of it than it needs. -/
def overInputLines (f : Filter σ) : Nat → σ → Action σ
  | 0, s => return s
  | fuel + 1, s =>
    .line fun text => do
      if text = "" then
        let (s, out) := f.finish s
        .say out
        return s
      else
        let (s, out) := f.block s text
        .say out
        if f.stops s then return s else f.overInputLines fuel s

/-- Runs over a text. -/
def overText (f : Filter σ) (s : σ) (text : String) : Action σ := do
  let (s, out) := f.block s text
  .say out
  if f.stops s then return s
  let (s, out) := f.finish s
  .say out
  return s

end Filter

/-- The text of a file by its name; directories have none. -/
def Call.file (c : Call) (name : String) : Action (Except PathError String) := do
  let disk ← .disk
  return (disk.read (c.path name)).map Bytes.ofList

/-- Whether an operand means the input. -/
def meansInput (operand : String) : Bool := operand = "-" || operand = "/dev/stdin"

/-- Why the input cannot be read, if it cannot. -/
def inputFault? : Action (Option PathError) := do
  match ← .inputKind with
  | .directory => return some .isADirectory
  | .closed => return some .badChannel
  | .file | .stream => return none

/-- The text of an operand, all of the input if it means that. -/
def Call.textOf (c : Call) (operand : String) : Action (Except PathError String) := do
  if meansInput operand then
    match ← inputFault? with
    | some e => return .error e
    | none => return .ok (← .allInput)
  else c.file operand

/-- Runs a filter over operands, over the input if there are none; what cannot be read is complained about. Gives what
the filter has in mind, and whether all went well. -/
def Filter.overOperands {σ : Type} (f : Filter σ) (c : Call) (complain : String → PathError → Action Unit) :
    List String → σ → Bool → Action (σ × Bool)
  | [], s, well => return (s, well)
  | operand :: rest, s, well => do
    if f.stops s then return (s, well)
    if meansInput operand then
      match ← inputFault? with
      | some e =>
        complain operand e
        f.overOperands c complain rest s false
      | none =>
        let s ← f.overInput Filter.blockLimit s
        f.overOperands c complain rest s well
    else
      match ← c.file operand with
      | .ok text =>
        let s ← f.overText s text
        f.overOperands c complain rest s well
      | .error e =>
        complain operand e
        f.overOperands c complain rest s false

/-- Operands, or the input if there are none. -/
def orInput (operands : List String) : List String := if operands.isEmpty then ["-"] else operands

/-- The complaint about an operand that cannot be read, in few words. -/
def Call.complainOf (c : Call) (operand : String) (e : PathError) : Action Unit :=
  c.complain (shownName operand ++ ": " ++ e.text)

/-- The status of a program that did all it could. -/
def statusOf (well : Bool) : Nat := if well then 0 else 1

end GateRunner
