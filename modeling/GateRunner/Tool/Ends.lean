import GateRunner.Tool.Show

/-!
# The ends of files

`head` shows how files begin, `tail` how they end. Both count lines or bytes, from either end.
-/

namespace GateRunner

/-- A part of a text by a count from one of its ends. -/
structure Extract where
  bytes : Bool
  count : Nat
  /-- Whether the count says how much is left out, and is not shown. -/
  leavesOut : Bool

namespace Extract

/-- The units that are counted. -/
def units (e : Extract) (text : String) : List String :=
  if e.bytes then text.toList.map String.singleton else endedLines text

/-- The beginning of a text. -/
def first (e : Extract) (text : String) : String :=
  let units := e.units text
  String.join (if e.leavesOut then units.take (units.length - e.count) else units.take e.count)

/-- The end of a text. -/
def last (e : Extract) (text : String) : String :=
  let units := e.units text
  String.join (if e.leavesOut then units.drop e.count else units.drop (units.length - e.count))

end Extract

/-- How much of an input is taken so that it holds so many lines; nothing if it does not yet. What is no file is read in
blocks. -/
def lengthOfLines (count : Nat) (isFile : Bool) (text : String) : Option Nat :=
  let rec go : Nat → Nat → List Char → Option Nat
    | 0, length, _ => some length
    | _ + 1, _, [] => none
    | n + 1, length, c :: rest => go (if c = '\n' then n else n + 1) (length + 1) rest
  (go count 0 text.toList).map fun n => if isFile || n = 0 then n else min text.length ((n + 1023) / 1024 * 1024)

/-- How the options of both programs are understood. -/
structure EndOptions where
  extract : Extract
  quiet : Bool
  verbose : Bool
  operands : List String

/-- The old way to give a count, as a first argument like `-5`. -/
def modernArgs (signs : List Char) : List String → List String
  | first :: rest =>
    match first.toList with
    | sign :: digits =>
      let number := digits.takeWhile Char.isDigit
      let letters := digits.drop number.length
      if signs.contains sign && !number.isEmpty && letters.all (fun c => c ∈ ['c', 'l', 'q', 'v', 'k', 'b', 'm', 'f']) then
        let text := (if sign = '+' then "+" else "") ++ String.ofList number
        let unit := if letters.contains 'c' then "-c" else "-n"
        let others := letters.filter (fun c => c = 'q' || c = 'v')
        unit :: text :: (if others.isEmpty then [] else [String.ofList ('-' :: others)]) ++ rest
      else first :: rest
    | [] => first :: rest
  | [] => []

/-- The options of `head` and `tail`. A sign may go before a count. -/
def endOptions (c : Call) (signs : List Char) (leaving : Char) (use : EndOptions → Action Nat) : Action Nat :=
  withOptions
    [valued 'c' "bytes", valued 'n' "lines", flag 'q' "quiet", flag 'q' "silent", flag 'v' "verbose",
      flag 'z' "zero-terminated", flag 'f' "", flag 'F' "", ⟨'\x02', "follow", true, true⟩, valued 's' "sleep-interval",
      valued '\x03' "pid", flag '\x04' "retry"] 1
    (fun c o => do
      let bytes := o.last? ['c', 'n'] = some 'c'
      let text := (o.value? (if bytes then 'c' else 'n')).getD "10"
      let leavesOut := text.toList.head? = some leaving
      let digits := if leavesOut || text.startsWith "-" || text.startsWith "+" then String.ofList (text.toList.drop 1)
        else text
      match amount? digits with
      | none => c.refuse ("invalid number of " ++ (if bytes then "bytes" else "lines") ++ ": " ++ quoted digits) 1
      | some count =>
        let named := o.last? ['q', 'v']
        use ⟨⟨bytes, count, leavesOut⟩, named = some 'q', named = some 'v', o.operands⟩)
    (c.withArgs (modernArgs signs c.args))

/-- The line above what is shown of a file, if it gets one. -/
def endTitle (o : EndOptions) (begun : Bool) (operand : String) : String :=
  if o.verbose || (!o.quiet && 1 < o.operands.length) then
    (if begun then "\n" else "") ++ "==> " ++ (if operand = "-" then "standard input" else operand) ++ " <==\n"
  else ""

/-- What is shown of each operand, one after the other. -/
def showEnds (c : Call) (o : EndOptions) (input : Action String) (part : String → String) :
    List String → Bool → Bool → Action Nat
  | [], _, well => return statusOf well
  | operand :: rest, begun, well => do
    if meansInput operand then
      .say (endTitle o begun operand)
      match ← inputFault? with
      | some e =>
        c.complain ("error reading 'standard input': " ++ e.text)
        showEnds c o input part rest true false
      | none =>
        .say (part (← input))
        showEnds c o input part rest true well
    else
      match ← c.file operand with
      | .ok text =>
        .say (endTitle o begun operand ++ part text)
        showEnds c o input part rest true well
      | .error .isADirectory =>
        .say (endTitle o begun operand)
        c.complainOpening "" operand .isADirectory
        showEnds c o input part rest true false
      | .error e =>
        c.complainOpening "" operand e
        showEnds c o input part rest begun false

/-- `head`: how files begin. -/
def headProgram : Tool := fun c => endOptions c ['-'] '-' fun o =>
  let e := o.extract
  let input : Action String :=
    if e.leavesOut then .allInput
    else if e.count = 0 then return ""
    else if e.bytes then .read (fun text => if e.count ≤ text.length then some e.count else none) .done
    else .input fun kind => .read (lengthOfLines e.count (kind = .file)) .done
  showEnds c o input e.first (orInput o.operands) false true

/-- `tail`: how files end. A count with a plus says where to begin. -/
def tailProgram : Tool := fun c => endOptions c ['-', '+'] '+' fun o =>
  let e := o.extract
  let e := if e.leavesOut then { e with count := e.count - 1 } else e
  showEnds c o .allInput e.last (orInput o.operands) false true

end GateRunner
