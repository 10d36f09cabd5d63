/-!
# Shell scripts

The parts of a script: words with their expansions, redirections, and commands put together by operators and by the
compound forms. Commands know the line they begin on, for the sake of messages. A script stands for itself here; what
it does is for the interpreter to say.
-/

namespace GateRunner.Shell

/-- What a parameter expansion does where the parameter is not set, or is empty if the colon is given. -/
inductive Fallback
  | useDefault
  | assignDefault
  | useAlternative
  | complain
deriving DecidableEq, Repr

/-- Which end of a value a pattern is cut from, and how much of it. -/
inductive Trim
  | shortFront
  | longFront
  | shortBack
  | longBack
deriving DecidableEq, Repr

/-- Where a redirection leads. -/
inductive RedirectKind
  | write
  /-- Over a file that is there, whatever the options say. -/
  | overwrite
  | append
  | read
  | readWrite
  | duplicate
  /-- From a text in the script itself, which is kept under a number. -/
  | here (document : Nat)
deriving DecidableEq, Repr

mutual

/-- A piece of a word. What is quoted is neither split nor matched against names of files. -/
inductive Part
  | text (quoted : Bool) (value : String)
  | parameter (quoted : Bool) (name : String) (use : Use)
  | command (quoted : Bool) (body : Option Command)
  | arithmetic (quoted : Bool) (expression : List Part)

/-- What is made of a parameter. -/
inductive Use
  | value
  | length
  | fallback (colon : Bool) (kind : Fallback) (word : List Part)
  | trim (kind : Trim) (pattern : List Part)
  /-- Nothing that the shell knows. -/
  | unknown

/-- A redirection of a channel. -/
inductive Redirect
  | mk (channel : Nat) (kind : RedirectKind) (target : List Part)

/-- A command. -/
inductive Command
  | simple (line : Nat) (assignments : List (String × List Part)) (words : List (List Part))
      (redirects : List Redirect)
  | pipeline (stages : List Command) (background : Bool)
  | redirected (line : Nat) (body : Command) (redirects : List Redirect)
  | subshell (line : Nat) (body : Option Command) (redirects : List Redirect)
  | background (line : Nat) (body : Option Command) (redirects : List Redirect)
  | negated (body : Command)
  | both (first second : Command)
  | either (first second : Command)
  | sequence (first second : Command)
  | conditional (test : Option Command) (yes : Option Command) (no : Option Command)
  | loop (whileTrue : Bool) (test : Option Command) (body : Option Command)
  | forEach (line : Nat) (name : String) (words : List (List Part)) (body : Option Command)
  | select (line : Nat) (subject : List Part) (branches : List (List (List Part) × Option Command))
  | define (line : Nat) (name : String) (body : Command)

end

instance : Inhabited Command := ⟨.simple 0 [] [] []⟩

/-- A word of a script. -/
abbrev Word := List Part

/-- The text of a word that is nothing but unquoted text. -/
def plainWord? : Word → Option String
  | [] => some ""
  | [.text false value] => some value
  | _ => none

/-- Whether a part of the word is quoted. -/
def holdsQuotes (word : Word) : Bool :=
  word.any fun part =>
    match part with
    | .text quoted _ => quoted
    | _ => false

/-- The text of a word without its quotes, expansions being left out. -/
def unquotedText (word : Word) : String :=
  String.join (word.map fun part =>
    match part with
    | .text _ value => value
    | _ => "")

/-- Whether a character can begin a name. -/
def beginsName (c : Char) : Bool := c.isAlpha || c = '_'

/-- Whether a character can stand in a name. -/
def isInName (c : Char) : Bool := c.isAlphanum || c = '_'

/-- Whether a text is a name. -/
def isName (text : String) : Bool := text.toList.head?.any beginsName && text.toList.all isInName

/-- A command with redirections around it, if there are any. -/
def withRedirects (line : Nat) (body : Command) (redirects : List Redirect) : Command :=
  if redirects.isEmpty then body else .redirected line body redirects

/-- The shell's own commands whose mistakes end a script, and whose names no function may have. -/
def specialBuiltins : List String :=
  [".", ":", "break", "continue", "eval", "exec", "exit", "export", "readonly", "return", "set", "shift", "times",
    "trap", "unset", "local"]

/-- The name and the value of an assignment, if the word is one. -/
def assignment? : Word → Option (String × Word)
  | .text false value :: rest =>
    let name := String.ofList (value.toList.takeWhile isInName)
    match value.toList.dropWhile isInName with
    | '=' :: after =>
      if isName name then some (name, if after.isEmpty then rest else .text false (String.ofList after) :: rest)
      else none
    | _ => none
  | _ => none

end GateRunner.Shell
