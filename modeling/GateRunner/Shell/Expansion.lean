import GateRunner.Shell.Session
import GateRunner.Shell.Wildcard

/-!
# Expanding words

A word expands to pieces of text, of which some are quoted and some come out of an expansion. The pieces are cut into
fields, or taken as one text or as one pattern.

Expansion itself runs no commands. Where it needs the output of one it stops and says so; the word is then expanded
again from the beginning, with the outputs known so far as answers. Expanding is the same each time up to that point,
since it looks at nothing but the session.
-/

namespace GateRunner.Shell

/-- A piece of an expanded word. -/
inductive Piece
  /-- Text, and whether it is quoted and whether it is cut into fields. -/
  | chars (quoted splits : Bool) (text : String)
  /-- The end of a field, between arguments that are quoted or not. -/
  | cut (quoted : Bool)
deriving DecidableEq, Repr

/-- The piece as one that is cut into fields. -/
def Piece.splitting : Piece → Piece
  | .chars quoted _ text => .chars quoted true text
  | .cut quoted => .cut quoted

/-- The output of a command and its status. -/
structure Answer where
  text : String
  status : Nat

/-- Why expansion does not go on. -/
inductive Halt
  /-- Something is wrong. -/
  | fault (message : String) (s : Session)
  /-- The output of a command is needed. -/
  | wants (body : Option Command) (s : Session)

/-- Expanding in a session, with the outputs known so far. It is known whether the word is to be cut into fields. -/
abbrev Expanding := ReaderT Bool (StateT (Session × List Answer) (Except Halt))

namespace Expanding

/-- The session. -/
def session : Expanding Session := return (← get).1

/-- Changes the session. -/
def update (s : Session) : Expanding Unit := modify fun state => (s, state.2)

/-- Stops because something is wrong. -/
def fault {α : Type} (message : String) : Expanding α := do
  throw (.fault message (← session))

/-- Goes on with the session if it could be changed. -/
def updateOr (result : Except String Session) : Expanding Unit :=
  match result with
  | .ok s => update s
  | .error message => fault message

end Expanding

open Expanding

/-- An output without the line feeds at its end and without zero bytes. -/
def tidyOutput (text : String) : String :=
  String.ofList ((text.toList.filter (·.toNat ≠ 0)).reverse.dropWhile (· = '\n')).reverse

/-- The output of a command, from the answers. -/
def outputOf (body : Option Command) : Expanding String := do
  let (s, answers) ← get
  match answers with
  | a :: rest =>
    set ({ s with status := a.status, substituted := a.status }, rest)
    return tidyOutput a.text
  | [] => throw (.wants body s)

/-- The text of pieces that are not cut into fields. -/
def wholeText (joiner : String) (pieces : List Piece) : String :=
  String.join (pieces.map fun p =>
    match p with
    | .chars _ _ text => text
    | .cut _ => joiner)

/-- The text of pieces as a pattern. -/
def wholePattern (joiner : String) (pieces : List Piece) : Marked :=
  pieces.flatMap fun p =>
    match p with
    | .chars quoted _ text => text.toList.map (·, quoted)
    | .cut _ => joiner.toList.map (·, false)

/-- A value with the end cut off that a pattern covers, if there is such an end. -/
def trimmed? (kind : Trim) (pattern : Marked) (value : String) : Option String :=
  let cs := value.toList
  let front := Wildcard.reaches 0 (Wildcard.ways (Wildcard.ofMarked pattern)) cs
  let back (n : Nat) : Bool := covers pattern (String.ofList (cs.drop (cs.length - n)))
  let lengths := List.range (cs.length + 1)
  match kind with
  | .shortFront => front.head?.map fun n => String.ofList (cs.drop n)
  | .longFront => front.getLast?.map fun n => String.ofList (cs.drop n)
  | .shortBack => (lengths.find? back).map fun n => String.ofList (cs.take (cs.length - n))
  | .longBack => (lengths.reverse.find? back).map fun n => String.ofList (cs.take (cs.length - n))

/-- A value with the end cut off that a pattern covers. -/
def trimValue (kind : Trim) (pattern : Marked) (value : String) : String := (trimmed? kind pattern value).getD value

/-- Arguments with the end cut off that a pattern covers, where each is a field of its own. The front is that of the
first argument, and where all of that is the longest front, the others go with it. What follows an end that is cut off
goes with it too; the longest is looked for in the first argument alone, the shortest from the last argument on. -/
def trimArguments (kind : Trim) (pattern : Marked) : List String → List String
  | [] => []
  | first :: rest =>
    match kind with
    | .shortFront => trimValue .shortFront pattern first :: rest
    | .longFront => if covers pattern first then [""] else trimValue .longFront pattern first :: rest
    | .longBack =>
      match trimmed? .longBack pattern first with
      | some first => [first]
      | none => first :: rest
    | .shortBack =>
      let all := first :: rest
      match (all.zipIdx.reverse.findSome? fun (arg, i) => (trimmed? .shortBack pattern arg).map (i, ·)) with
      | some (i, arg) => all.take i ++ [arg]
      | none => all

/-- The home directory that a tilde with a name stands for. -/
def home? (s : Session) (name : String) : Option String :=
  if name = "" then s.value? "HOME" else if name = "root" then some "/root" else none

/-- A text with the tilde at its front written out. Nothing must follow the name but a slash, or the end of the word. -/
def expandTilde (s : Session) (endsWord : Bool) (text : String) : List Piece :=
  let plain := [Piece.chars false false text]
  match text.toList with
  | '~' :: rest =>
    let name := rest.takeWhile (· ≠ '/')
    let after := rest.drop name.length
    if after.isEmpty && !endsWord then plain
    else
      match home? s (String.ofList name) with
      | some home => [.chars true false home, .chars false false (String.ofList after)]
      | none => plain
  | _ => plain

/-- A value with the tilde written out after each colon, and at its front if it begins there. -/
def expandTildes (s : Session) (begins endsWord : Bool) (text : String) : List Piece :=
  let parts := text.splitOn ":"
  let lastIndex := parts.length - 1
  (parts.zipIdx.map fun (part, i) =>
    if i = 0 && !begins then [Piece.chars false false part]
    else expandTilde s (i < lastIndex || endsWord) part).intersperse [.chars false false ":"] |>.flatten

/-- The value that a parameter has, one that is missing being complained about if that is wished. -/
def requiredValue (name : String) : Expanding (Option String) := do
  let s ← session
  match s.parameter? name with
  | some value => return some value
  | none => if s.on 'u' && name ≠ "@" && name ≠ "*" then fault (name ++ ": parameter not set") else return none

/-- The pieces of fields. -/
def fieldPieces (quoted : Bool) (fields : List String) : List Piece :=
  (fields.map (Piece.chars quoted true)).intersperse (.cut quoted)

/-- The pieces of all arguments. -/
def argumentPieces (s : Session) (quoted : Bool) (name : String) : List Piece :=
  if quoted && name = "*" then [.chars true true (s.joiner.intercalate s.args)] else fieldPieces quoted s.args

/-- The pieces of a value. -/
def valuePieces (s : Session) (quoted : Bool) (name value : String) : List Piece :=
  if name = "@" || name = "*" then argumentPieces s quoted name else [.chars quoted true value]

mutual

/-- The pieces of one part of a word. -/
def expandPart : Part → Expanding (List Piece)
  | .text quoted value => return [.chars quoted false value]
  | .parameter quoted name use => expandUse quoted name use
  | .command quoted body => return [.chars quoted true (← outputOf body)]
  | .arithmetic quoted expression => do
    let pieces ← withReader (fun _ => false) (expandWord expression)
    let text := wholeText (← session).joiner pieces
    match Arithmetic.evaluate Session.arithmetic text (← session) with
    | .ok (n, s) =>
      update s
      return [.chars quoted true (toString n)]
    | .error (.other message) => fault message
    | .error (.expression reason) => fault ("arithmetic expression: " ++ reason ++ ": \"" ++ text ++ "\"")

/-- What is made of a parameter. -/
def expandUse (quoted : Bool) (name : String) : Use → Expanding (List Piece)
  | .value => do
    let value ← requiredValue name
    return valuePieces (← session) quoted name (value.getD "")
  | .length => do
    let value ← requiredValue name
    return [.chars quoted true (toString (value.getD "").length)]
  | .unknown => fault "Bad substitution"
  | .trim kind word => do
    match ← requiredValue name with
    | none => return [.chars quoted true ""]
    | some value =>
      let pieces ← withReader (fun _ => false) (expandWord word)
      let s ← session
      let pattern := wholePattern s.joiner pieces
      if (← read) && (name = "@" || (name = "*" && !quoted)) then
        return fieldPieces quoted (trimArguments kind pattern s.args)
      return [.chars quoted true (trimValue kind pattern value)]
  | .fallback colon kind word => do
    let s ← session
    let value := s.parameter? name
    let missing := match value with
      | none => true
      | some v => colon && v = ""
    let here := valuePieces s quoted name (value.getD "")
    match kind with
    | .useDefault => if missing then return (← expandWord word).map Piece.splitting else return here
    | .useAlternative => if missing then return [] else return (← expandWord word).map Piece.splitting
    | .assignDefault =>
      if missing then
        let pieces ← expandWord word
        let text := wholeText (← session).joiner pieces
        if !isName name then fault (name ++ ": bad variable name")
        updateOr ((← session).assign name text)
        return [.chars quoted true text]
      else return here
    | .complain =>
      if missing then
        let pieces ← expandWord word
        let text := wholeText (← session).joiner pieces
        let standard := if colon then "parameter not set or null" else "parameter not set"
        fault (name ++ ": " ++ if word.isEmpty then standard else text)
      else return here

/-- The pieces of a word, one part after the other, a tilde at its front being written out. -/
def expandWord : List Part → Expanding (List Piece)
  | [] => return []
  | .text false value :: rest => do
    let first := expandTilde (← session) rest.isEmpty value
    return first ++ (← expandParts rest)
  | part :: rest => do
    let first ← expandPart part
    return first ++ (← expandParts rest)

/-- The pieces of a word, one part after the other. -/
def expandParts : List Part → Expanding (List Piece)
  | [] => return []
  | part :: rest => do
    let first ← expandPart part
    return first ++ (← expandParts rest)

end

/-- The pieces of a value that is assigned, which may begin here. -/
def expandValue (begins : Bool) : List Part → Expanding (List Piece)
  | [] => return []
  | .text false value :: rest => do
    let first := expandTildes (← session) begins rest.isEmpty value
    return first ++ (← expandValue false rest)
  | part :: rest => do
    let first ← expandPart part
    return first ++ (← expandValue false rest)

/-- The pieces of a word that declares a variable with its value. -/
def expandDeclaration : List Part → Expanding (List Piece)
  | .text false value :: rest => do
    let name := value.toList.takeWhile (· ≠ '=')
    let after := String.ofList (value.toList.drop (name.length + 1))
    let first := expandTildes (← session) true rest.isEmpty after
    return .chars false false (String.ofList name ++ "=") :: first ++ (← expandValue false rest)
  | word => expandValue true word

/-- How far pieces have been cut into fields. The fields and the field begun are in reverse order. -/
structure Cutting where
  done : List Marked
  field : Option Marked
  /-- Whether the last field was ended by a blank, so that one separator more ends nothing. -/
  blankEnded : Bool

namespace Cutting

/-- A character of a field. -/
def add (c : Cutting) (char : Char) (quoted : Bool) : Cutting :=
  { c with field := some ((char, quoted) :: c.field.getD []), blankEnded := false }

/-- The end of a field, if one was begun. -/
def close (c : Cutting) : Cutting :=
  match c.field with
  | some f => { c with done := f.reverse :: c.done, field := none }
  | none => c

/-- A character at which a field may end. Blanks end a field and count once, another separator ends even an empty
one. -/
def separate (c : Cutting) (char : Char) : Cutting :=
  if char = ' ' || char = '\t' || char = '\n' then
    if c.field.isSome then { c.close with blankEnded := true } else c
  else if c.field.isSome then { c.close with blankEnded := false }
  else if c.blankEnded then { c with blankEnded := false }
  else { c with done := [] :: c.done }

/-- One piece more. -/
def piece (separators : List Char) (c : Cutting) : Piece → Cutting
  | .cut true => { c.close with blankEnded := false }
  | .cut false => c.separate ' '
  | .chars quoted splits text =>
    if quoted then
      text.toList.foldl (fun c char => c.add char true)
        { c with field := some (c.field.getD []), blankEnded := false }
    else if !splits then text.toList.foldl (fun c char => c.add char false) c
    else
      text.toList.foldl (fun c char => if separators.contains char then c.separate char else c.add char false) c

end Cutting

/-- The fields of expanded words. -/
def splitFields (separators : String) (pieces : List Piece) : List Marked :=
  (pieces.foldl (Cutting.piece separators.toList) ⟨[], none, false⟩).close.done.reverse

/-- What a word is expanded for. -/
inductive Purpose
  /-- To be cut into fields, which are matched against names of files. -/
  | fields
  /-- To be one text. -/
  | text
  /-- To be the value of a variable. -/
  | value
  /-- To be the name of a variable with its value. -/
  | declaration
  /-- To be a text within the script. -/
  | document
deriving DecidableEq

/-- What comes of a word: texts, and the same as marked texts. -/
structure Expanded where
  texts : List String
  pattern : Marked

/-- Expands a word for a purpose. -/
def expandFor (disk : Disk) (purpose : Purpose) (word : Word) : Expanding Expanded := do
  let pieces ← match purpose with
    | .value => expandValue true word
    | .declaration => expandDeclaration word
    | .document => expandParts word
    | _ => expandWord word
  let s ← session
  match purpose with
  | .fields =>
    let fields := splitFields s.separators pieces
    let texts := fields.flatMap fun f => if s.on 'f' then [plain f] else pathsOf disk s.directory f
    return ⟨texts, []⟩
  | _ => return ⟨[wholeText s.joiner pieces], wholePattern s.joiner pieces⟩

/-- How expanding a word went. -/
inductive Outcome
  | done (result : Expanded) (s : Session)
  | fault (message : String) (s : Session)
  | wants (body : Option Command) (s : Session)

/-- Expands a word in a session with the outputs known so far. -/
def expand (disk : Disk) (purpose : Purpose) (word : Word) (answers : List Answer) (s : Session) : Outcome :=
  match ((expandFor disk purpose word).run (purpose = .fields)).run (s, answers) with
  | .ok (result, (s, _)) => .done result s
  | .error (.fault message s) => .fault message s
  | .error (.wants body s) => .wants body s

end GateRunner.Shell
