import GateRunner.Program.Amount
import GateRunner.Program.Filter
import GateRunner.Program.Options

/-!
# Showing files

Programs that write out what they read, whole or line by line: `cat`, `tac`, `rev`, `nl`, `tee` and `yes`.
-/

namespace GateRunner

/-! ## `cat` -/

/-- How a text is shown. -/
structure Showing where
  numbers : Bool
  numbersFilled : Bool
  squeezes : Bool
  marksEnds : Bool
  marksTabs : Bool
  marksControls : Bool

/-- Where in a text showing it stands. -/
structure ShowState where
  lines : Nat
  /-- How many ends of lines there have been in a row. -/
  ends : Nat
  /-- A carriage return that may belong to the end of a line. -/
  held : Bool

/-- A character shown as it prints. -/
def Showing.char (o : Showing) (c : Char) : List Char :=
  let low (n : Nat) : List Char :=
    if n < 32 then ['^', Char.ofNat (n + 64)] else if n = 127 then ['^', '?'] else [Char.ofNat n]
  if c = '\t' then if o.marksTabs then ['^', 'I'] else [c]
  else if !o.marksControls || c = '\n' then [c]
  else if c.toNat < 128 then low c.toNat
  else 'M' :: '-' :: low (c.toNat - 128)

/-- The characters that a line begins with. -/
def Showing.front (lines : Nat) : List Char := (padLeft 6 (toString lines) ++ "\t").toList

/-- One character more. The output is in reverse order. -/
def Showing.step (o : Showing) (state : ShowState × List Char) (c : Char) : ShowState × List Char :=
  let (s, out) := state
  if c = '\n' then
    if o.squeezes && 2 ≤ s.ends then (s, out)
    else
      let numbered := s.ends ≠ 0 && o.numbers && !o.numbersFilled
      let (lines, out) := if numbered then (s.lines + 1, (Showing.front (s.lines + 1)).reverse ++ out) else (s.lines, out)
      let out := if s.held then (if o.marksEnds then ['M', '^'] else ['\r']) ++ out else out
      (⟨lines, s.ends + 1, false⟩, '\n' :: (if o.marksEnds then '$' :: out else out))
  else
    let numbered := s.ends ≠ 0 && (o.numbers || o.numbersFilled)
    let (lines, out) := if numbered then (s.lines + 1, (Showing.front (s.lines + 1)).reverse ++ out) else (s.lines, out)
    let out := if s.held then '\r' :: out else out
    if c = '\r' && o.marksEnds && !o.marksControls then (⟨lines, 0, true⟩, out)
    else (⟨lines, 0, false⟩, (o.char c).reverse ++ out)

/-- Showing as a filter. -/
def Showing.filter (o : Showing) : Filter ShowState :=
  { block := fun s text =>
      let (s, out) := text.toList.foldl o.step (s, [])
      (s, String.ofList out.reverse),
    finish := fun s => ({ s with held := false }, if s.held then "\r" else ""),
    stops := fun _ => false }

/-- `cat`: files one after the other. -/
def catProgram : Tool :=
  withOptions
    [flag 'A' "show-all", flag 'b' "number-nonblank", flag 'e' "", flag 'E' "show-ends", flag 'n' "number",
      flag 's' "squeeze-blank", flag 't' "", flag 'T' "show-tabs", flag 'u' "", flag 'v' "show-nonprinting"] 1
    fun c o => do
      let has (letters : List Char) : Bool := letters.any o.has
      let showing : Showing := ⟨o.has 'n', o.has 'b', o.has 's', has ['A', 'e', 'E'], has ['A', 't', 'T'],
        has ['A', 'e', 't', 'v']⟩
      let (_, well) ← if o.given.all (·.1 = 'u') then do
          let (_, well) ← (Filter.ofMap id).overOperands c c.complainOf (orInput o.operands) () true
          pure ((), well)
        else do
          let (_, well) ← showing.filter.overOperands c c.complainOf (orInput o.operands) ⟨0, 1, false⟩ true
          pure ((), well)
      return statusOf well

/-! ## Lines in another order or form -/

/-- The parts of a text that end with an end of line, and what is left. -/
def endedLines (text : String) : List String :=
  let (lines, rest) := Filter.cutLines text
  lines.map (· ++ "\n") ++ if rest = "" then [] else [rest]

/-- The complaint about a file that cannot be opened, or cannot be read because it is a directory. -/
def Call.complainOpening (c : Call) (how : String) (operand : String) (e : PathError) : Action Unit :=
  c.complain (match e with
    | .isADirectory => "error reading " ++ shellQuoted operand ++ ": " ++ e.text
    | _ => "cannot open " ++ shellQuoted operand ++ " for reading: " ++ e.text ++ how)

/-- Something done with the text of each operand. -/
def Call.withEach (c : Call) (complain : String → PathError → Action Unit) (use : String → String → Action Bool) :
    List String → Bool → Action Bool
  | [], well => return well
  | operand :: rest, well => do
    match ← c.textOf operand with
    | .ok text =>
      let fine ← use operand text
      c.withEach complain use rest (well && fine)
    | .error e =>
      complain operand e
      c.withEach complain use rest false

/-- `tac`: the lines from the last one on. -/
def tacProgram : Tool := withOptions [flag 'b' "before", flag 'r' "regex", valued 's' "separator"] 1 fun c o => do
  let complain (operand : String) (e : PathError) : Action Unit :=
    c.complain (match e with
      | .isADirectory => shownName operand ++ ": read error: Invalid argument"
      | _ => "failed to open " ++ shellQuoted operand ++ " for reading: " ++ e.text)
  let well ← c.withEach complain (fun _ text => do
    .say (String.join (endedLines text).reverse)
    return true) (orInput o.operands) true
  return statusOf well

/-- `rev`: each line from its last character on. -/
def revProgram : Tool := withOptions [] 1 fun c o => do
  let backwards (_ : Unit) (text : String) (ended : Bool) : Unit × String :=
    ((), String.ofList text.toList.reverse ++ if ended then "\n" else "")
  let complain (operand : String) (e : PathError) : Action Unit :=
    c.complain ("cannot open " ++ operand ++ ": " ++ e.text)
  let (_, well) ← (Filter.ofLines backwards fun _ => false).overOperands c complain (orInput o.operands) ("", ()) true
  return statusOf well

/-- `nl`: lines with their numbers. -/
def nlProgram : Tool :=
  withOptions
    [valued 'b' "body-numbering", valued 'n' "number-format", valued 'w' "number-width", valued 's' "number-separator",
      valued 'v' "starting-line-number", valued 'i' "line-increment", flag 'p' "no-renumber", valued 'h' "", valued 'f' "",
      valued 'd' "", valued 'l' ""] 1
    fun c o => do
      let number (letter : Char) (standard : Nat) : Nat := ((o.value? letter).bind wholeNatural?).getD standard
      let (width, step) := (number 'w' 6, number 'i' 1)
      let separator := (o.value? 's').getD "\t"
      let style := (o.value? 'b').getD "t"
      let shown (n : Nat) : String :=
        match o.value? 'n' with
        | some "ln" => padRight width (toString n)
        | some "rz" => String.ofList ((padLeft width (toString n)).toList.map fun c => if c = ' ' then '0' else c)
        | _ => padLeft width (toString n)
      let line (n : Nat) (text : String) (_ : Bool) : Nat × String :=
        if style = "a" || (style = "t" && text ≠ "") then (n + step, shown n ++ separator ++ text ++ "\n")
        else (n, String.ofList (List.replicate (width + separator.length) ' ') ++ text ++ "\n")
      let (_, well) ← (Filter.ofLines line fun _ => false).overOperands c c.complainOf (orInput o.operands)
        ("", number 'v' 1) true
      return statusOf well

/-! ## `tee` and `yes` -/

/-- The text added to files, or put into them. -/
def fillFiles (c : Call) (appends : Bool) (text : String) : List String → Bool → Action Bool
  | [], well => return well
  | name :: rest, well => do
    if name = "/dev/stdout" then .say text
    if name = "/dev/stderr" then .write 2 text (.done ())
    if name ∈ ["/dev/stdout", "/dev/stderr", "/dev/null"] then fillFiles c appends text rest well
    else
      let disk ← .disk
      let bytes := Bytes.toList text
      match if appends then disk.append (c.path name) bytes else disk.write (c.path name) bytes with
      | .ok disk =>
        .keep disk
        fillFiles c appends text rest well
      | .error e =>
        c.complainOf name e
        fillFiles c appends text rest false

/-- `tee`: the input is written on the output and into files. -/
def teeProgram : Tool :=
  withOptions [flag 'a' "append", flag 'i' "ignore-interrupts", flag 'p' "", ⟨'\x01', "output-error", true, true⟩] 1
    fun c o => do
      let opened ← fillFiles c (o.has 'a') "" o.operands true
      let text ← .allInput
      .say text
      let files := o.operands.filter (· ≠ "-")
      if opened then
        discard (fillFiles c true text files true)
        return 0
      else
        let disk ← .disk
        discard (fillFiles c true text (files.filter fun f => (disk.filePlace? (c.path f)).isOk) true)
        return 1

/-- `yes`: the same line again and again. -/
def yesProgram : Tool := fun c =>
  .flood ((if c.args.isEmpty then "y" else " ".intercalate (if c.args.head? = some "--" then c.args.drop 1 else c.args))
    ++ "\n")

end GateRunner
