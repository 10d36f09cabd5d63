import GateRunner.Shell.Script

/-!
# Tokens of scripts

A script is read as tokens: words, operators and redirections. A word that is not quoted is a keyword where one may
stand.
-/

namespace GateRunner.Shell

/-- The words with a meaning of their own. -/
inductive Keyword
  | not
  | case
  | do
  | done
  | elif
  | else
  | esac
  | fi
  | for
  | if
  | in
  | then
  | until
  | while
  | begin
  | close
deriving DecidableEq, Repr

/-- The keywords with their spelling. -/
def Keyword.table : List (String × Keyword) :=
  [("!", .not), ("case", .case), ("do", .do), ("done", .done), ("elif", .elif), ("else", .else), ("esac", .esac),
    ("fi", .fi), ("for", .for), ("if", .if), ("in", .in), ("then", .then), ("until", .until), ("while", .while),
    ("\x7b", .begin), ("\x7d", .close)]

/-- The spelling of a keyword. -/
def Keyword.spelling (k : Keyword) : String := ((Keyword.table.find? (·.2 = k)).map (·.1)).getD ""

/-- A token of a script. -/
inductive Token
  | endOfFile
  | newline
  | semicolon
  | background
  | and
  | or
  | pipe
  | open
  | close
  | endOfCase
  | redirect (channel : Nat) (kind : RedirectKind) (strip : Bool)
  | word (parts : Word)
  | keyword (k : Keyword)

namespace Token

/-- How a message names a token. -/
def title : Token → String
  | .endOfFile => "end of file"
  | .newline => "newline"
  | .semicolon => "\";\""
  | .background => "\"&\""
  | .and => "\"&&\""
  | .or => "\"||\""
  | .pipe => "\"|\""
  | .open => "\"(\""
  | .close => "\")\""
  | .endOfCase => "\";;\""
  | .redirect _ _ _ => "redirection"
  | .word _ => "word"
  | .keyword k => "\"" ++ k.spelling ++ "\""

/-- Whether the token ends a list of commands. -/
def endsList : Token → Bool
  | .endOfFile | .close | .endOfCase => true
  | .keyword k => k ∈ [.do, .done, .elif, .else, .esac, .fi, .then, .close]
  | _ => false

/-- Whether the token is that keyword. -/
def isKeyword (k : Keyword) : Token → Bool
  | .keyword other => other = k
  | _ => false

/-- Whether the token ends a line. -/
def isNewline : Token → Bool
  | .newline => true
  | _ => false

end Token

/-- What is to be looked for in the next token. -/
structure Expectation where
  newlines : Bool
  keywords : Bool
  aliases : Bool
  /-- Whether the next word ends a text in the script, so that nothing in it is expanded. -/
  endMark : Bool

/-- Nothing in particular. -/
def Expectation.nothing : Expectation := ⟨false, false, false, false⟩

/-- The beginning of a command, on this line or a later one. -/
def Expectation.command : Expectation := ⟨true, true, true, false⟩

/-- The beginning of a command on this line. -/
def Expectation.commandHere : Expectation := ⟨false, true, true, false⟩

/-- A text in the script that is still to come: its number, whether things in it are expanded, whether tabs at the
beginning of lines are dropped, and the line that ends it. -/
structure PendingDocument where
  number : Nat
  expands : Bool
  strip : Bool
  mark : String

/-- What is wrong with a script, and where. -/
structure ScriptError where
  line : Nat
  reason : String

/-- How far a script has been read. -/
structure Reader where
  rest : List Char
  line : Nat
  last : Token
  pushed : Bool
  expected : Expectation
  pending : List PendingDocument
  documents : List (Nat × Word)
  nextDocument : Nat
  aliases : List (String × String)
  /-- Aliases whose text is being read, with how much will be left when it has been. -/
  busy : List (String × Nat)

/-- The beginning of a script. -/
def Reader.begin (text : List Char) (line nextDocument : Nat) (aliases : List (String × String)) : Reader :=
  { rest := text, line, last := .newline, pushed := false, expected := .nothing, pending := [], documents := [],
    nextDocument, aliases, busy := [] }

/-- Reading in a script. -/
abbrev Reading := StateT Reader (Except ScriptError)

namespace Reading

/-- Gives up. -/
def refuse {α : Type} (reason : String) : Reading α := do
  throw ⟨(← get).line, reason⟩

/-- Gives up because of the last token. -/
def unexpected {α : Type} : Reading α := do
  refuse ((← get).last.title ++ " unexpected")

/-- Gives up because the last token is not the one that has to come. -/
def expecting {α : Type} (what : Token) : Reading α := do
  refuse ((← get).last.title ++ " unexpected (expecting " ++ what.title ++ ")")

/-- Drops joined ends of lines: a backslash with an end of line after it. -/
def dropJoined : List Char → Nat → List Char × Nat
  | '\\' :: '\n' :: rest, line => dropJoined rest (line + 1)
  | rest, line => (rest, line)

/-- The next character, joined lines being one. -/
def next : Reading (Option Char) := do
  let r ← get
  let (rest, line) := dropJoined r.rest r.line
  match rest with
  | c :: rest =>
    set { r with rest, line }
    return some c
  | [] =>
    set { r with rest, line }
    return none

/-- The next character as it stands. -/
def nextRaw : Reading (Option Char) := do
  let r ← get
  match r.rest with
  | c :: rest =>
    set { r with rest }
    return some c
  | [] => return none

/-- Puts a character back. -/
def back (c : Option Char) : Reading Unit := modify fun r => { r with rest := c.toList ++ r.rest }

/-- Counts a line. -/
def countLine : Reading Unit := modify fun r => { r with line := r.line + 1 }

/-- Makes the last token the next one. -/
def pushBack : Reading Unit := modify fun r => { r with pushed := true }

/-- Says what is looked for next. -/
def expect (e : Expectation) : Reading Unit := modify fun r => { r with expected := e }

end Reading

end GateRunner.Shell
