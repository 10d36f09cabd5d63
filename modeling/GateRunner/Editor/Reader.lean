import GateRunner.Editor.Script
import GateRunner.Program.Echo

/-!
# Reading scripts that edit lines

A script is given in pieces, as arguments or in files, and a mistake is told with the piece and the place in it.
-/

namespace GateRunner.Editor

/-- What is wrong with a script: a text, with the place to which it had been read if that is told. -/
structure Fault where
  place : Option Nat
  text : String

/-- How far a script has been read. -/
structure ReadState where
  rest : List Char
  place : Nat
  steps : List Step
  /-- The blocks that are open: where they began, and the place in the list of commands. -/
  blocks : List Nat
  labels : List (String × Nat)
  /-- Jumps whose labels have to be found: the place in the list of commands, and the label. -/
  jumps : List (Nat × String)
  extended : Bool

/-- Reading a script. -/
abbrev Reading := StateT ReadState (Except Fault)

/-- Gives up at this place. -/
def refuse {α : Type} (text : String) : Reading α := do
  throw ⟨some (← get).place, text⟩

/-- The next character. -/
def next : Reading (Option Char) := do
  let s ← get
  match s.rest with
  | c :: rest =>
    set { s with rest, place := s.place + 1 }
    return some c
  | [] => return none

/-- Puts a character back. -/
def back (c : Option Char) : Reading Unit :=
  match c with
  | some c => modify fun s => { s with rest := c :: s.rest, place := s.place - 1 }
  | none => pure ()

/-- The next character that passes a test, the others being passed over. -/
def nextAfter (skipped : Char → Bool) : Reading (Option Char) := do
  let s ← get
  let blanks := s.rest.takeWhile skipped
  set { s with rest := s.rest.drop blanks.length, place := s.place + blanks.length }
  next

/-- Whether a character is a blank within a line. -/
def isBlank (c : Char) : Bool := c = ' ' || c = '\t'

/-- Whether a character is any blank. -/
def isSpace (c : Char) : Bool := c = ' ' || (9 ≤ c.toNat && c.toNat ≤ 13)

/-- The next character within the line that is no blank. -/
def nextNonBlank : Reading (Option Char) := nextAfter isBlank

/-- The digits from here on, after a first one. -/
def digitsFrom (first : Char) : Reading Nat := do
  let s ← get
  let digits := s.rest.takeWhile Char.isDigit
  set { s with rest := s.rest.drop digits.length, place := s.place + digits.length }
  return digitsValue 10 (first :: digits)

/-- Whether an expression's text is inside a set after more of it: how much of a set's beginning has been seen. -/
inductive SetState
  | outside
  | begun
  | inside
deriving DecidableEq

/-- The text up to a separator. A backslash before the separator is dropped, and in an expression a line feed can be
written as a letter; the separator does not count within a set. -/
def upToSeparator (separator : Char) (isExpression : Bool) : Nat → SetState → List Char → Reading (Option (List Char))
  | 0, _, _ => return none
  | fuel + 1, state, seen => do
    match ← next with
    | none => return none
    | some c =>
      if state ≠ .outside then
        let inner : SetState := if c = ']' && state = .inside then .outside
          else if c = '^' && state = .begun && seen.head? = some '[' then .begun else .inside
        if c = '\\' && isExpression then
          match ← next with
          | some 'n' => upToSeparator separator isExpression fuel .inside ('\n' :: seen)
          | some d =>
            if d = separator then upToSeparator separator isExpression fuel .inside (d :: seen)
            else do
              back (some d)
              upToSeparator separator isExpression fuel .inside ('\\' :: seen)
          | none => return none
        else upToSeparator separator isExpression fuel inner (c :: seen)
      else if c = separator then return some seen.reverse
      else if c = '\n' && isExpression then return none
      else if c = '\\' then
        match ← next with
        | none => return none
        | some d =>
          if d = separator then
            upToSeparator separator isExpression fuel .outside
              (if !isExpression && d = '&' then d :: '\\' :: seen else d :: seen)
          else if d = 'n' && isExpression then upToSeparator separator isExpression fuel .outside ('\n' :: seen)
          else if d = '\n' && isExpression then upToSeparator separator isExpression fuel .outside ('\n' :: seen)
          else upToSeparator separator isExpression fuel .outside (d :: '\\' :: seen)
      else if c = '[' && isExpression then upToSeparator separator isExpression fuel .begun (c :: seen)
      else upToSeparator separator isExpression fuel .outside (c :: seen)

/-- The character that an escape by a letter or a number stands for, with what follows it. -/
def escapedChar? : List Char → Option (Char × List Char)
  | 'a' :: rest => some ('\x07', rest)
  | 'f' :: rest => some ('\x0c', rest)
  | 'r' :: rest => some ('\r', rest)
  | 't' :: rest => some ('\t', rest)
  | 'v' :: rest => some ('\x0b', rest)
  | 'c' :: c :: rest => some (Char.ofNat (c.toUpper.toNat ^^^ 64), rest)
  | 'd' :: rest => number 10 3 Char.isDigit rest
  | 'o' :: rest => number 8 3 isOctal rest
  | 'x' :: rest => number 16 2 (fun c => (hexDigit? c).isSome) rest
  | _ => none
where
  /-- A character by its number. -/
  number (base most : Nat) (isDigit : Char → Bool) (rest : List Char) : Option (Char × List Char) :=
    let digits := (rest.take most).takeWhile isDigit
    if digits.isEmpty then none else some (byteChar (digitsValue base digits), rest.drop digits.length)

/-- The text of an expression with escapes written out. What they stand for has no meaning of its own. -/
def plainExpression : Nat → List Char → List Char
  | 0, text => text
  | _, [] => []
  | fuel + 1, '\\' :: rest =>
    match escapedChar? rest with
    | some (c, after) =>
      let special := c ∈ ['*', '.', '[', ']', '^', '$', '\\', '/']
      (if special then ['\\', c] else [c]) ++ plainExpression fuel after
    | none =>
      match rest with
      | c :: after => '\\' :: c :: plainExpression fuel after
      | [] => ['\\']
  | fuel + 1, c :: rest => c :: plainExpression fuel rest

/-- The expression of a text. -/
def expressionOf (text : List Char) (ignoresCase multiline : Bool) : Reading Expression := do
  if text.isEmpty then return ⟨none, ignoresCase, multiline⟩
  let s ← get
  let source := String.ofList (plainExpression (text.length + 1) text)
  if source.startsWith "[:" && source.endsWith ":]" then
    throw ⟨none, "character class syntax is [[:space:]], not [:space:]"⟩
  match Posix.parse ⟨s.extended, ignoresCase, true⟩ source with
  | .ok (node, _) => return ⟨some node, ignoresCase, multiline⟩
  | .error e => refuse e.message

/-- The letters after an expression that is an address. -/
def addressFlags : Nat → Bool → Bool → Reading (Bool × Bool)
  | 0, i, m => return (i, m)
  | fuel + 1, i, m => do
    match ← next with
    | some 'I' => addressFlags fuel true m
    | some 'M' => addressFlags fuel i true
    | c =>
      back c
      return (i, m)

/-- An expression as an address, after its first separator. -/
def matchingAddress (separator : Char) : Reading Address := do
  let fuel := (← get).rest.length + 1
  match ← upToSeparator separator true fuel .outside [] with
  | none => refuse "unterminated address regex"
  | some text =>
    let (i, m) ← addressFlags fuel false false
    return .matching (← expressionOf text i m)

/-- A number after a sign, zero if there is none. -/
def optionalNumber : Reading Nat := do
  match ← next with
  | some c =>
    if c.isDigit then digitsFrom c
    else
      back (some c)
      return 0
  | none => return 0

/-- An address, if there is one here. -/
def address? (isSecond : Bool) : Reading (Option Address) := do
  match ← nextNonBlank with
  | some '/' => return some (← matchingAddress '/')
  | some '\\' =>
    match ← next with
    | some c => return some (← matchingAddress c)
    | none => refuse "unexpected `,'"
  | some '$' => return some .last
  | some c =>
    if c.isDigit then
      let n ← digitsFrom c
      let after ← nextNonBlank
      if after = some '~' && !isSecond then return some (.step n (← optionalNumber))
      back after
      return some (.number n)
    else if isSecond && (c = '+' || c = '~') then
      let n ← optionalNumber
      return some (if c = '+' then .plus n else .multiple n)
    else
      back (some c)
      return none
  | none => return none

/-- What has to come after a command: the end of it. -/
def endCommand : Reading Unit := do
  match ← nextNonBlank with
  | none | some '\n' | some ';' => return
  | some '\x7d' => back (some '\x7d')
  | some '#' => back (some '#')
  | some '\r' => return
  | some _ => refuse "extra characters after command"

/-- The rest of the line. -/
def restOfLine : Reading (List Char) := do
  let s ← get
  let text := s.rest.takeWhile (· ≠ '\n')
  set { s with rest := s.rest.drop (text.length + 1), place := s.place + min s.rest.length (text.length + 1) }
  return text

/-- The name of a file, to the end of the line. -/
def fileName : Reading String := do
  let c ← nextNonBlank
  back c
  match ← restOfLine with
  | [] => refuse "missing filename in r/R/w/W commands"
  | name => return String.ofList name

/-- A label, to the end of the command. -/
def labelName : Reading String := do
  let c ← nextNonBlank
  back c
  let s ← get
  let name := s.rest.takeWhile (fun c => !isSpace c && c ≠ ';')
  set { s with rest := s.rest.drop name.length, place := s.place + name.length }
  let c ← next
  match c with
  | some '\x7d' | some '#' => back c
  | _ => pure ()
  return String.ofList name

/-- Lines of text, to the first end of line without a backslash before it. Other backslashes are dropped. -/
def textLinesFrom : Nat → List Char → Reading (List Char)
  | 0, seen => return seen.reverse
  | fuel + 1, seen => do
    match ← next with
    | none => return ('\n' :: seen).reverse
    | some '\n' => return ('\n' :: seen).reverse
    | some '\\' =>
      let escaped := match (← get).rest with
        | 'n' :: rest => some ('\n', rest)
        | rest => escapedChar? rest
      match escaped with
      | some (c, rest) =>
        modify fun s => { s with rest, place := s.place + (s.rest.length - rest.length) }
        textLinesFrom fuel (c :: seen)
      | none =>
        match ← next with
        | none => return ('\n' :: seen).reverse
        | some c => textLinesFrom fuel (c :: seen)
    | some c => textLinesFrom fuel (c :: seen)

/-- The text of a command that puts lines in. -/
def textOf : Reading String := do
  match ← nextNonBlank with
  | none => refuse "expected \\ after `a', `c' or `i'"
  | some '\\' =>
    let s ← get
    match s.rest.dropWhile isBlank with
    | '\n' :: after => set { s with rest := after, place := s.place + (s.rest.length - after.length) }
    | _ => pure ()
    match (← get).rest with
    | [] => return ""
    | rest => return String.ofList (← textLinesFrom (rest.length + 1) [])
  | c =>
    back c
    return String.ofList (← textLinesFrom ((← get).rest.length + 1) [])

/-- The parts of a replacement. -/
def replacementParts : Nat → List Char → List Char → List Replacement
  | 0, _, _ => []
  | _, held, [] => flush held []
  | fuel + 1, held, '\\' :: c :: rest =>
    let part (r : Replacement) : List Replacement := flush held (r :: replacementParts fuel [] rest)
    if c.isDigit then part (.group (c.toNat - 48))
    else
      match c with
      | 'U' => part (.change .upper)
      | 'L' => part (.change .lower)
      | 'u' => part (.change .nextUpper)
      | 'l' => part (.change .nextLower)
      | 'E' => part (.change .nothing)
      | 'n' => replacementParts fuel ('\n' :: held) rest
      | _ =>
        match escapedChar? (c :: rest) with
        | some (d, after) => replacementParts fuel (d :: held) after
        | none => replacementParts fuel (c :: held) rest
  | fuel + 1, held, '&' :: rest => flush held (.group 0 :: replacementParts fuel [] rest)
  | fuel + 1, held, c :: rest => replacementParts fuel (c :: held) rest
where
  /-- The text held so far before further parts. -/
  flush (held : List Char) (more : List Replacement) : List Replacement :=
    if held.isEmpty then more else .text (String.ofList held.reverse) :: more

/-- The letters after an exchange. -/
structure SubstitutionFlags where
  number : Option Nat
  all : Bool
  shows : Bool
  ignoresCase : Bool
  multiline : Bool
  file : Option String

/-- Reads the letters after an exchange. -/
def substitutionFlags : Nat → SubstitutionFlags → Reading SubstitutionFlags
  | 0, f => return f
  | fuel + 1, f => do
    match ← next with
    | none | some '\n' | some ';' => return f
    | some 'i' | some 'I' => substitutionFlags fuel { f with ignoresCase := true }
    | some 'm' | some 'M' => substitutionFlags fuel { f with multiline := true }
    | some 'g' =>
      if f.all then refuse "multiple `g' options to `s' command"
      substitutionFlags fuel { f with all := true }
    | some 'p' =>
      if f.shows then refuse "multiple `p' options to `s' command"
      substitutionFlags fuel { f with shows := true }
    | some 'w' => return { f with file := some (← fileName) }
    | some 'e' => substitutionFlags fuel f
    | some '\x7d' =>
      back (some '\x7d')
      return f
    | some '#' =>
      back (some '#')
      return f
    | some '\r' => return f
    | some c =>
      if isBlank c then substitutionFlags fuel f
      else if c.isDigit then
        if f.number.isSome then
          discard (digitsFrom c)
          refuse "multiple number options to `s' command"
        let n ← digitsFrom c
        if n = 0 then refuse "number option to `s' command may not be zero"
        substitutionFlags fuel { f with number := some n }
      else refuse "unknown option to `s'"

/-- An exchange of what an expression matches. -/
def substitution : Reading Substitution := do
  let fuel := (← get).rest.length + 2
  let unterminated {α : Type} : Reading α := refuse "unterminated `s' command"
  match ← next with
  | none | some '\n' | some '\\' => unterminated
  | some separator =>
    match ← upToSeparator separator true fuel .outside [] with
    | none => unterminated
    | some pattern =>
      match ← upToSeparator separator false fuel .outside [] with
      | none => unterminated
      | some text =>
        let flags ← substitutionFlags fuel ⟨none, false, false, false, false, none⟩
        let expression ← expressionOf pattern flags.ignoresCase flags.multiline
        let parts := replacementParts (text.length + 1) [] text
        let groups := (expression.node.map (·.groups)).getD 9
        let tooGreat := parts.findSome? fun p =>
          match p with
          | .group n => if groups < n then some n else none
          | _ => none
        match tooGreat with
        | some n => refuse ("invalid reference \\" ++ toString n ++ " on `s' command's RHS")
        | none =>
          return ⟨expression, parts, flags.number.getD 1, flags.all, flags.shows, flags.file⟩

/-- The characters of one side of an exchange of characters. -/
def exchangeChars : List Char → List Char
  | '\\' :: '\\' :: rest => '\\' :: exchangeChars rest
  | '\\' :: 'n' :: rest => '\n' :: exchangeChars rest
  | '\\' :: 't' :: rest => '\t' :: exchangeChars rest
  | '\\' :: c :: rest => c :: exchangeChars rest
  | c :: rest => c :: exchangeChars rest
  | [] => []

/-- An exchange of characters. -/
def exchange : Reading (List (Char × Char)) := do
  let fuel := (← get).rest.length + 2
  let unterminated {α : Type} : Reading α := refuse "unterminated `y' command"
  match ← next with
  | none => unterminated
  | some separator =>
    match ← upToSeparator separator false fuel .outside [] with
    | none => unterminated
    | some one =>
      match ← upToSeparator separator false fuel .outside [] with
      | none => unterminated
      | some other =>
        let (a, b) := (exchangeChars one, exchangeChars other)
        if a.length ≠ b.length then refuse "strings for `y' command are different lengths"
        endCommand
        return a.zip b

/-- A step added to the script. -/
def addStep (selector : Selector) (command : Command) : Reading Unit :=
  modify fun s => { s with steps := ⟨selector, command⟩ :: s.steps }

/-- A number after a command, with the end of the command. -/
def numberArgument : Reading (Option Nat) := do
  match ← nextNonBlank with
  | some c =>
    if c.isDigit then
      let n ← digitsFrom c
      endCommand
      return some n
    else
      back (some c)
      endCommand
      return none
  | none => return none

/-- A jump to a label that may be missing. -/
def jump (selector : Selector) (kind : JumpKind) : Reading Unit := do
  let name ← labelName
  let s ← get
  if name ≠ "" then set { s with jumps := (s.steps.length, name) :: s.jumps }
  addStep selector (.jump kind none)

/-- A command after its addresses. -/
def commandOf (selector : Selector) (c : Char) : Reading Unit := do
  let plain (command : Command) : Reading Unit := do
    endCommand
    addStep selector command
  let single (go : Reading Unit) : Reading Unit := do
    if selector.second.isSome then refuse "command only uses one address"
    go
  match c with
  | '\x7b' =>
    modify fun s => { s with blocks := s.steps.length :: s.blocks }
    addStep selector (.openBlock 0)
  | '\x7d' =>
    if selector.first.isSome then refuse "\x7d doesn't want any addresses"
    match (← get).blocks with
    | [] => refuse "unexpected `\x7d'"
    | _ :: outer =>
      modify fun s => { s with blocks := outer }
      endCommand
      addStep selector .closeBlock
  | ':' =>
    if selector.first.isSome then refuse ": doesn't want any addresses"
    let first ← nextNonBlank
    back first
    let s ← get
    let name := s.rest.takeWhile (fun c => !isSpace c && c ≠ ';')
    set { s with rest := s.rest.drop name.length, place := s.place + name.length }
    if name.isEmpty then refuse "\":\" lacks a label"
    modify fun s => { s with labels := (String.ofList name, s.steps.length) :: s.labels }
    addStep selector .label
  | '=' => plain .number
  | 'a' => addStep selector (.append (← textOf))
  | 'i' => addStep selector (.insert (← textOf))
  | 'c' => addStep selector (.change (← textOf))
  | 'b' => jump selector .always
  | 't' => jump selector .ifChanged
  | 'T' => jump selector .ifUnchanged
  | 'd' => plain .delete
  | 'D' => plain .deleteFirst
  | 'p' => plain .show
  | 'P' => plain .showFirst
  | 'n' => plain .next
  | 'N' => plain .addNext
  | 'g' => plain .take
  | 'G' => plain .takeMore
  | 'h' => plain .keep
  | 'H' => plain .keepMore
  | 'x' => plain .swap
  | 'F' => plain .fileName
  | 'z' => plain .clear
  | 'q' => single do addStep selector (.quit ((← numberArgument).getD 0) true)
  | 'Q' => single do addStep selector (.quit ((← numberArgument).getD 0) false)
  | 'l' => addStep selector (.list (← numberArgument))
  | 'r' => addStep selector (.readFile (← fileName))
  | 'R' => addStep selector (.readLine (← fileName))
  | 'w' => addStep selector (.writeFile (← fileName))
  | 'W' => addStep selector (.writeFirst (← fileName))
  | 's' => addStep selector (.substitute (← substitution))
  | 'y' => addStep selector (.exchange (← exchange))
  | 'v' => discard restOfLine
  | c => refuse ("unknown command: `" ++ String.singleton c ++ "'")

/-- Marks of negation, with blanks after them. -/
def negation : Reading Bool := do
  match ← nextNonBlank with
  | some '!' =>
    match ← nextAfter isSpace with
    | some '!' => refuse "multiple `!'s"
    | c =>
      back c
      return true
  | c =>
    back c
    return false

/-- A command with its addresses, if there is one more. -/
def readStep : Reading Bool := do
  match ← nextAfter (fun c => isSpace c || c = ';') with
  | none => return false
  | some '#' =>
    discard restOfLine
    return true
  | c =>
    back c
    let first ← address? false
    let second ← match first with
      | none => pure none
      | some _ =>
        match ← nextNonBlank with
        | some ',' =>
          match ← address? true with
          | some a => pure (some a)
          | none =>
            discard next
            refuse "unexpected `,'"
        | c =>
          back c
          pure none
    match first, second with
    | some (.number 0), some (.matching _) => pure ()
    | some (.number 0), _ => do
      discard next
      refuse "invalid usage of line address 0"
    | _, _ => pure ()
    let negated ← negation
    match ← nextNonBlank with
    | none => refuse "missing command"
    | some '#' => if first.isSome then refuse "comments don't accept any addresses" else
      discard restOfLine
      return true
    | some c =>
      commandOf ⟨first, second, negated⟩ c
      return true

/-- All commands. -/
def readSteps : Nat → Reading Unit
  | 0 => return
  | fuel + 1 => do
    if ← readStep then readSteps fuel

/-- Where the block that begins at a place ends, by the steps after it. -/
def blockEnd : Nat → Nat → List Step → Nat
  | _, place, [] => place
  | depth, place, s :: rest =>
    match s.command with
    | .openBlock _ => blockEnd (depth + 1) (place + 1) rest
    | .closeBlock => if depth = 0 then place else blockEnd (depth - 1) (place + 1) rest
    | _ => blockEnd depth (place + 1) rest

/-- The script of a text. -/
def parse (extended : Bool) (text : String) : Except Fault (Array Step) := do
  let start : ReadState := ⟨text.toList, 0, [], [], [], [], extended⟩
  let ((), s) ← (readSteps (text.length + 1)).run start
  if !s.blocks.isEmpty then throw ⟨some 0, "unmatched `\x7b'"⟩
  let steps := s.steps.reverse
  let settled ← steps.zipIdx.mapM fun (step, i) =>
    match step.command with
    | .openBlock _ => .ok { step with command := .openBlock (blockEnd 0 (i + 1) (steps.drop (i + 1))) }
    | .jump kind _ =>
      match s.jumps.lookup i with
      | none => .ok step
      | some name =>
        match s.labels.lookup name with
        | some target => .ok { step with command := .jump kind (some target) }
        | none => .error ⟨none, "can't find label for jump to `" ++ name ++ "'"⟩
    | _ => .ok step
  return settled.toArray

end GateRunner.Editor
