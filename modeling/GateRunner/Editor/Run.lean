import GateRunner.Editor.Reader
import GateRunner.Program.Filter

/-!
# Running scripts that edit lines

A script is run once for each line of the input. What it shows goes to the output, or into the file that is being
edited; texts put in after a line wait until the line is done with.
-/

namespace GateRunner.Editor

/-- What stands in the input. -/
structure Line where
  text : String
  /-- Whether the line has an end. -/
  ended : Bool

/-- What is put in after a line. -/
inductive Pending
  | text (value : String)
  | file (name : String)

/-- Which lines a range still covers. -/
inductive Cover
  | closed
  /-- Up to a number. -/
  | upTo (n : Nat)
  /-- Up to a line that the second address fits. -/
  | untilSecond
deriving DecidableEq

/-- How the script is run. -/
structure Style where
  silent : Bool
  separate : Bool
  /-- Whether files are changed; the ending of the names that the old ones get. -/
  inPlace : Option String
  steps : Array Step
  lineEnd : String

/-- A run of a script. -/
structure Run where
  /-- The file at work, if it is one, with the lines of it that are still to come. -/
  name : String
  lines : Option (List Line)
  operands : List String
  /-- The next line, if it has been looked at. -/
  ahead : Option (Option Line)
  number : Nat
  pattern : String
  ended : Bool
  kept : String
  /-- Whether what is kept counts as ended. -/
  keptEnded : Bool
  changed : Bool
  covers : List (Nat × Cover)
  pending : List Pending
  lastExpression : Option Expression
  /-- Whether what was shown last lacks its end of line. -/
  lacksEnd : Bool
  /-- What a file being edited holds so far, in reverse order. -/
  edited : List String
  /-- How far files have been read line by line. -/
  readers : List (String × List String)
  status : Nat
  well : Bool

/-- What a step leads to. -/
inductive Outcome
  /-- The step to be carried out next. -/
  | goTo (place : Nat)
  /-- The end of the script for this line; whether the line is shown. -/
  | finish (shows : Bool)
  /-- The script is begun again without a line being read. -/
  | again
  | quit (status : Nat) (shows : Bool)
  | fail (message : String)

/-- The lines of a text. -/
def linesOf (lineEnd text : String) : List Line :=
  let parts := text.splitOn lineEnd
  let whole := parts.dropLast.map fun t => (⟨t, true⟩ : Line)
  match parts.getLast? with
  | none | some "" => whole
  | some last => whole ++ [⟨last, false⟩]

/-- Text shown on the output or in the file that is edited. -/
def emit (o : Style) (r : Run) (text : String) : Action Run := do
  let text := if r.lacksEnd && text ≠ "" then o.lineEnd ++ text else text
  let r := if text = "" then r else { r with lacksEnd := false }
  if o.inPlace.isSome && r.lines.isSome then return { r with edited := text :: r.edited }
  .say text
  return r

/-- A line shown. -/
def emitLine (o : Style) (r : Run) (text : String) : Action Run := do
  let r ← emit o r (if r.lacksEnd && text = "" then o.lineEnd else text)
  if r.ended then emit o { r with lacksEnd := false } o.lineEnd
  else return { r with lacksEnd := true }

/-- Text added to a file. -/
def addToFile (c : Call) (name text : String) : Action Unit := do
  if name = "/dev/stdout" then .say text
  else if name = "/dev/stderr" then .write 2 text (.done ())
  else
    let disk ← .disk
    match disk.append (c.path name) (Bytes.toList text) with
    | .ok disk => .keep disk
    | .error _ => return

/-- The end of a file: if it was edited, it gets what was shown. -/
def closeFile (c : Call) (o : Style) (r : Run) : Action Run := do
  match o.inPlace, r.lines with
  | some suffix, some _ =>
    let disk ← .disk
    let path := c.path r.name
    let kept := if suffix = "" then disk
      else
        let backup := if suffix.toList.contains '*' then suffix.replace "*" (baseName r.name) else r.name ++ suffix
        match disk.read path with
        | .ok bytes => (disk.write (c.path backup) bytes).toOption.getD disk
        | .error _ => disk
    match kept.write path (Bytes.toList (String.join r.edited.reverse)) with
    | .ok disk => .keep disk
    | .error _ => pure ()
    return { r with edited := [], lines := none, lacksEnd := false }
  | _, _ => return { r with lines := none }

/-- The next line of the input, files being opened one after the other. Those that cannot be read are complained
about. -/
def fetch (c : Call) (o : Style) (mayClose : Bool) : Nat → Run → Action (Option Line × Run)
  | 0, r => return (none, r)
  | fuel + 1, r => do
    match r.lines with
    | some (line :: rest) => return (some line, { r with lines := some rest })
    | some [] =>
      if !mayClose then return (none, r)
      let r ← closeFile c o r
      fetch c o mayClose fuel (if o.separate || o.inPlace.isSome then { r with number := 0 } else r)
    | none =>
      match r.operands with
      | [] => return (none, r)
      | operand :: rest =>
        if operand = "-" && o.inPlace.isNone then
          match ← inputFault? with
          | some e =>
            c.complain ("read error on stdin: " ++ e.text)
            fetch c o mayClose fuel { r with operands := rest, well := false, status := 4 }
          | none =>
            .line fun text => do
              if text = "" then fetch c o mayClose fuel { r with operands := rest }
              else if text.endsWith "\n" then
                return (some ⟨String.ofList text.toList.dropLast, true⟩, { r with name := "-" })
              else return (some ⟨text, false⟩, { r with name := "-" })
        else
          match ← c.file operand with
          | .ok text =>
            fetch c o mayClose fuel
              { r with operands := rest, name := operand, lines := some (linesOf o.lineEnd text) }
          | .error .isADirectory =>
            c.complain (if o.inPlace.isSome then "couldn't edit " ++ operand ++ ": not a regular file"
              else "read error on " ++ operand ++ ": Is a directory")
            fetch c o mayClose fuel { r with operands := rest, status := 4 }
          | .error e =>
            c.complain ("can't read " ++ operand ++ ": " ++ e.text)
            fetch c o mayClose fuel { r with operands := rest, status := max r.status 2 }

/-- How many files are gone through at most. -/
def fileLimit (r : Run) : Nat := 2 * r.operands.length + 4

/-- Whether the line at hand is the last one. -/
def isLast (c : Call) (o : Style) (r : Run) : Action (Bool × Run) := do
  if o.separate || o.inPlace.isSome then
    match r.lines with
    | some rest => return (rest.isEmpty, r)
    | none => pure ()
  match r.ahead with
  | some line => return (line.isNone, r)
  | none =>
    match r.lines with
    | some (_ :: _) => return (false, r)
    | _ =>
      let (line, r) ← fetch c o true (fileLimit r) r
      return (line.isNone, { r with ahead := some line })

/-- Reads the next line, if there is one. -/
def readNext (c : Call) (o : Style) (r : Run) : Action (Option Line × Run) := do
  let (line, r) ← match r.ahead with
    | some line => pure (line, { r with ahead := none })
    | none => fetch c o true (fileLimit r) r
  match line with
  | some l => return (some l, { r with number := r.number + 1 })
  | none => return (none, { r with ahead := some none })

/-! ## Addresses -/

/-- The first match of an expression in a text. -/
def matchIn (e : Expression) (last : Option Expression) (text : Array Char) (place : Nat) :
    Option (Option Posix.Match × Posix.Subject) :=
  let used := if e.node.isSome then some e else last
  used.bind fun used => used.node.map fun node =>
    let subject : Posix.Subject := ⟨text, used.multiline, used.ignoresCase⟩
    (Posix.search node subject place, subject)

/-- The run after an expression has been used. -/
def using_ (r : Run) (e : Expression) : Run := if e.node.isSome then { r with lastExpression := some e } else r

/-- Whether a single address fits the line. -/
def fits (c : Call) (o : Style) (r : Run) : Address → Action (Option Bool × Run)
  | .number n => return (some (r.number = n), r)
  | .step first step =>
    return (some (if step = 0 then r.number = first else first ≤ r.number && (r.number - first) % step = 0), r)
  | .last => do
    let (last, r) ← isLast c o r
    return (some last, r)
  | .matching e =>
    match matchIn e r.lastExpression r.pattern.toList.toArray 0 with
    | none => return (none, r)
    | some (m, _) => return (some m.isSome, using_ r e)
  | .plus _ | .multiple _ => return (some false, r)

/-- The run with the cover of a step. -/
def setCover (r : Run) (place : Nat) (cover : Cover) : Run :=
  { r with covers := (place, cover) :: r.covers.filter (·.1 ≠ place) }

/-- Whether a step is meant for the line. Nothing if there is no expression to be used again. -/
def selects (c : Call) (o : Style) (r : Run) (place : Nat) (s : Selector) : Action (Option Bool × Run) := do
  match s.first, s.second with
  | none, _ => return (some true, r)
  | some a, none => fits c o r a
  | some a, some b =>
    let zero := match a with
      | .number 0 => true
      | _ => false
    let cover := (r.covers.lookup place).getD (if zero then .untilSecond else .closed)
    match cover with
    | .upTo n =>
      let r := if n ≤ r.number then setCover r place .closed else r
      return (some (r.number ≤ n), r)
    | .untilSecond =>
      let (found, r) ← fits c o r b
      match found with
      | none => return (none, r)
      | some found => return (some true, if found then setCover r place .closed else setCover r place .untilSecond)
    | .closed =>
      let (found, r) ← fits c o r a
      match found with
      | none => return (none, r)
      | some false => return (some false, r)
      | some true =>
        let upTo (n : Nat) : Run := if n ≤ r.number then r else setCover r place (.upTo n)
        match b with
        | .number n => return (some true, upTo n)
        | .plus n => return (some true, upTo (r.number + n))
        | .multiple n => return (some true, if n = 0 then r else upTo ((r.number + n - 1) / n * n))
        | _ => return (some true, setCover r place .untilSecond)

/-! ## Exchanging -/

/-- A text with a change of its letters. -/
def changeLetters (mode once : CaseChange) (text : String) : String :=
  let text := match mode with
    | .upper => text.toUpper
    | .lower => text.toLower
    | _ => text
  match once, text.toList with
  | .nextUpper, c :: rest => String.ofList (c.toUpper :: rest)
  | .nextLower, c :: rest => String.ofList (c.toLower :: rest)
  | _, _ => text

/-- The text that a replacement gives for a match. -/
def replace (parts : List Replacement) (m : Posix.Match) (s : Posix.Subject) : String :=
  let step (state : String × CaseChange × CaseChange) (p : Replacement) : String × CaseChange × CaseChange :=
    let (out, mode, once) := state
    let add (text : String) : String × CaseChange × CaseChange :=
      if text = "" then state else (out ++ changeLetters mode once text, mode, .nothing)
    match p with
    | .text value => add value
    | .group n => add (m.group s n)
    | .change c =>
      match c with
      | .nextUpper | .nextLower => (out, mode, c)
      | .nothing => (out, .nothing, .nothing)
      | c => (out, c, once)
  (parts.foldl step ("", .nothing, .nothing)).1

/-- A text in which matches are exchanged, and whether any was. -/
def substituteFrom (s : Substitution) (find : Nat → Option (Posix.Match × Posix.Subject)) (text : Array Char) :
    Nat → Nat → Nat → Option Nat → List String → Bool → String × Bool
  | 0, _, _, _, out, done => (String.join out.reverse, done)
  | fuel + 1, place, count, lastEnd, out, done =>
    let part (start stop : Nat) : String := String.ofList (text.extract start stop).toList
    let rest : String × Bool := (String.join (part place text.size :: out).reverse, done)
    if text.size < place then (String.join out.reverse, done)
    else
      match find place with
      | none => rest
      | some (m, subject) =>
        let before := part place m.start
        if m.stop = m.start && lastEnd = some m.start then
          substituteFrom s find text fuel (m.start + 1) count none (part m.start (m.start + 1) :: before :: out) done
        else
          let count := count + 1
          let counts := s.first ≤ count
          let put := if counts then replace s.replacement m subject else part m.start m.stop
          let out := put :: before :: out
          if counts && !s.all then (String.join (part m.stop text.size :: out).reverse, true)
          else if m.stop = m.start then
            substituteFrom s find text fuel (m.stop + 1) count none (part m.stop (m.stop + 1) :: out) (done || counts)
          else substituteFrom s find text fuel m.stop count (some m.stop) out (done || counts)

/-! ## Steps -/

/-- A text shown so that it is clear which characters are in it, broken into lines. -/
def clearText (width : Nat) (text : String) : String :=
  let shown (c : Char) : String :=
    if c = '\\' then "\\\\" else if prints c then String.singleton c else shownEscape c
  let rec go (column : Nat) : List Char → String
    | [] => "$\n"
    | c :: rest =>
      let s := shown c
      if 1 < width && width - 1 < column + s.length then "\\\n" ++ s ++ go s.length rest
      else s ++ go (column + s.length) rest
  go 0 text.toList

/-- What waits to be put in after the line. -/
def flushPending (c : Call) (o : Style) (r : Run) : Action Run := do
  let rec go (r : Run) : List Pending → Action Run
    | [] => return r
    | .text value :: rest => do go (← emit o r value) rest
    | .file name :: rest => do
      let text ← if meansInput name then .allInput else pure (((← c.file name).toOption).getD "")
      go (← emit o r text) rest
  let pending := r.pending
  go { r with pending := [] } pending

/-- The end of the work on a line. -/
def endLine (c : Call) (o : Style) (r : Run) (shows : Bool) : Action Run := do
  let r ← if shows && !o.silent then emitLine o r r.pattern else pure r
  flushPending c o r

/-- The first line of a text. -/
def firstLine (text : String) : String := String.ofList (text.toList.takeWhile (· ≠ '\n'))

/-- Carries out a command. -/
def perform (c : Call) (o : Style) (r : Run) (place : Nat) (s : Step) : Action (Outcome × Run) := do
  let on (r : Run) : Action (Outcome × Run) := return (.goTo (place + 1), r)
  let join (a b : String) : String := a ++ "\n" ++ b
  match s.command with
  | .openBlock _ | .closeBlock | .label => on r
  | .number => on (← emit o r (toString r.number ++ "\n"))
  | .append text => on { r with pending := r.pending ++ [.text text] }
  | .insert text => on (← emit o r text)
  | .change text =>
    let ends := s.selector.second.isNone || s.selector.negated || (r.covers.lookup place).getD .closed = .closed
    let r ← if ends then emit o r text else pure r
    return (.finish false, r)
  | .jump kind target =>
    let goes := kind = .always || (r.changed = (kind = .ifChanged))
    let r := if kind = .always then r else { r with changed := false }
    if !goes then on r
    else
      match target with
      | some n => return (.goTo n, r)
      | none => return (.finish true, r)
  | .delete => return (.finish false, r)
  | .deleteFirst =>
    let line := firstLine r.pattern
    if line.length = r.pattern.length then return (.finish false, r)
    else return (.again, { r with pattern := String.ofList (r.pattern.toList.drop (line.length + 1)) })
  | .show => on (← emitLine o r r.pattern)
  | .showFirst =>
    let after ← emitLine o { r with ended := true } (firstLine r.pattern)
    on { after with ended := r.ended }
  | .next =>
    let (last, r) ← isLast c o r
    if last then return (.finish true, r)
    let r ← if o.silent then pure r else emitLine o r r.pattern
    let r ← flushPending c o r
    match ← readNext c o r with
    | (some line, r) => on { r with pattern := line.text, ended := line.ended }
    | (none, r) => return (.finish false, r)
  | .addNext =>
    let (last, r) ← isLast c o r
    if last then return (.finish true, r)
    let r ← flushPending c o r
    match ← readNext c o r with
    | (some line, r) => on { r with pattern := join r.pattern line.text, ended := line.ended }
    | (none, r) => return (.finish true, r)
  | .take => on { r with pattern := r.kept, ended := r.keptEnded }
  | .takeMore => on { r with pattern := join r.pattern r.kept, ended := r.ended || r.keptEnded }
  | .keep => on { r with kept := r.pattern, keptEnded := r.ended }
  | .keepMore => on { r with kept := join r.kept r.pattern, keptEnded := r.ended || r.keptEnded }
  | .swap => on { r with kept := r.pattern, keptEnded := r.ended, pattern := r.kept, ended := r.keptEnded }
  | .quit status shows => return (.quit status shows, r)
  | .readFile name => on { r with pending := r.pending ++ [.file name] }
  | .readLine name =>
    let lines ← match r.readers.lookup name with
      | some lines => pure lines
      | none => pure (((← c.file name).toOption.map textLines).getD [])
    let r := { r with readers := (name, lines.drop 1) :: r.readers.filter (·.1 ≠ name) }
    match lines with
    | [] => on r
    | line :: _ => on { r with pending := r.pending ++ [.text (line ++ "\n")] }
  | .writeFile name =>
    addToFile c name (r.pattern ++ if r.ended then "\n" else "")
    on r
  | .writeFirst name =>
    addToFile c name (firstLine r.pattern ++ "\n")
    on r
  | .substitute sub =>
    let text := r.pattern.toList.toArray
    match matchIn sub.expression r.lastExpression text 0 with
    | none => return (.fail "no previous regular expression", r)
    | some (none, _) => on (using_ r sub.expression)
    | some (some first, subject) =>
      let find (at_ : Nat) : Option (Posix.Match × Posix.Subject) :=
        if at_ = 0 then some (first, subject)
        else (matchIn sub.expression r.lastExpression text at_).bind fun (m, subject) => m.map (·, subject)
      let (result, done) := substituteFrom sub find text (2 * text.size + 4) 0 0 none [] false
      let r := using_ r sub.expression
      if !done then on r
      else
        let r := { r with pattern := result, changed := true }
        let r ← if sub.shows then emitLine o r r.pattern else pure r
        match sub.file with
        | some name => addToFile c name (r.pattern ++ "\n")
        | none => pure ()
        on r
  | .exchange table => on { r with pattern := r.pattern.map fun c => (table.lookup c).getD c }
  | .list width => on (← emit o r (clearText (width.getD 70) r.pattern))
  | .fileName => on (← emit o r (r.name ++ "\n"))
  | .clear => on { r with pattern := "" }

/-- Carries out the script from a step on, for the line at hand. -/
def perFrom (c : Call) (o : Style) : Nat → Nat → Run → Action (Outcome × Run)
  | 0, _, r => return (.finish true, r)
  | fuel + 1, place, r => do
    match o.steps[place]? with
    | none => return (.finish true, r)
    | some s =>
      let (found, r) ← selects c o r place s.selector
      match found with
      | none => return (.fail "no previous regular expression", r)
      | some found =>
        if found = s.selector.negated then
          let past := match s.command with
            | .openBlock stop => stop + 1
            | _ => place + 1
          perFrom c o fuel past r
        else
          match ← perform c o r place s with
          | (.goTo next, r) => perFrom c o fuel next r
          | done => return done

/-- How many steps are taken for a line at most. -/
def stepLimit : Nat := 1000000

/-- Goes through the lines. -/
def runLines (c : Call) (o : Style) : Nat → Bool → Run → Action Run
  | 0, _, r => return r
  | fuel + 1, again, r => do
    let (line, r) ← if again then pure (some ⟨r.pattern, r.ended⟩, r) else readNext c o r
    match line with
    | none => return r
    | some line =>
      let r := { r with pattern := line.text, ended := line.ended, changed := if again then r.changed else false }
      match ← perFrom c o stepLimit 0 r with
      | (.quit status shows, r) =>
        let r ← endLine c o r shows
        if r.name = "-" then
          match ← .inputKind with
          | .stream => discard (Action.read (fun text => some text.length) .done)
          | _ => pure ()
        return { ← closeFile c o r with status }
      | (.again, r) =>
        let r ← flushPending c o r
        runLines c o fuel true r
      | (.fail message, r) =>
        c.complain ("-e expression #1, char 0: " ++ message)
        return { r with status := 1 }
      | (.finish shows, r) =>
        let r ← endLine c o r shows
        runLines c o fuel false r
      | (.goTo _, r) => runLines c o fuel false r

/-! ## The program -/

/-- The files that the script writes, which are emptied before it begins. -/
def writtenFiles (steps : Array Step) : List String :=
  steps.toList.filterMap fun s =>
    match s.command with
    | .writeFile name | .writeFirst name => some name
    | .substitute sub => sub.file
    | _ => none

/-- A piece of the script: its text, and the file it comes from if it does. -/
structure Piece where
  text : String
  file : Option String

/-- The wording of a fault, with the piece of the script it is in. -/
def faultText (pieces : List Piece) (f : Fault) : String :=
  match f.place with
  | none => f.text
  | some place =>
    let rec go (n : Nat) (place : Nat) : List Piece → String
      | [] => "-e expression #" ++ toString n ++ ", char " ++ toString place ++ ": " ++ f.text
      | p :: rest =>
        if p.text.length < place && !rest.isEmpty then
          go (if p.file.isSome then n else n + 1) (place - p.text.length - 1) rest
        else
          match p.file with
          | none => "-e expression #" ++ toString n ++ ", char " ++ toString place ++ ": " ++ f.text
          | some name =>
            let line := ((p.text.toList.take (place - 1)).filter (· = '\n')).length + 1
            "file " ++ name ++ " line " ++ toString line ++ ": " ++ f.text
    go 1 place pieces

end GateRunner.Editor
