import GateRunner.Posix.Reader
import GateRunner.Tool.Launch
import GateRunner.Tool.Listing

/-!
# Finding files: `find`

`find` goes through trees and has an expression decide about each file on the way. The expression consists of tests and
of things to do, joined by "and", "or" and "not"; what it need not look at, it does not do.
-/

namespace GateRunner

/-- A number compared with: exactly, at least one more, or at least one less. -/
structure Bound where
  sign : Option Char
  value : Nat

namespace Bound

/-- Whether a number is within the bound. -/
def admits (b : Bound) (n : Nat) : Bool :=
  match b.sign with
  | some '+' => b.value < n
  | some _ => n < b.value
  | none => n = b.value

/-- A bound by its text. -/
def ofText? (text : String) : Option Bound :=
  match text.toList with
  | '+' :: rest => (wholeNatural? (String.ofList rest)).map (⟨some '+', ·⟩)
  | '-' :: rest => (wholeNatural? (String.ofList rest)).map (⟨some '-', ·⟩)
  | _ => (wholeNatural? text).map (⟨none, ·⟩)

end Bound

/-- How a program is run for the files that are found. -/
inductive RunStyle
  | each
  /-- After a question. -/
  | asking
  /-- For all together. -/
  | together
deriving DecidableEq

/-- A part of an expression that is about a single file. -/
inductive FindTest
  | always (value : Bool)
  | name (pattern : String) (ignoresCase : Bool)
  | path (pattern : String) (ignoresCase : Bool)
  | linkName (pattern : String) (ignoresCase : Bool)
  | regex (pattern : Posix.Node) (ignoresCase : Bool)
  | kind (letters : List Char)
  | linkedKind (letters : List Char)
  | empty
  | size (bound : Bound) (unit : Nat)
  | newer (stamp : Nat)
  | age (bound : Bound)
  | links (bound : Bound)
  | mode (sign : Option Char) (bits : Nat)
  | executable
  | sameFile (place : List String)
  | print (ending : String)
  | format (text : List Char)
  | run (number : Nat) (style : RunStyle) (words : List String) (inDirectory : Bool)
  | delete
  | prune
  | quit

/-- An expression. -/
inductive FindExpr
  | test (t : FindTest)
  | negated (e : FindExpr)
  | both (a b : FindExpr)
  | either (a b : FindExpr)
  /-- Both, with the value of the second. -/
  | list (a b : FindExpr)

/-- How trees are gone through. -/
structure Search where
  least : Nat
  most : Option Nat
  /-- Whether directories come after what is in them. -/
  depthFirst : Bool
  followsAll : Bool
  followsGiven : Bool
  regexType : String
  /-- Whether the expression does something by itself. -/
  acts : Bool
  /-- How many programs are to be run. -/
  runs : Nat

/-! ## Reading expressions -/

/-- What has been read of an expression's words, and what is left. -/
structure FindReading where
  rest : List String
  before : String
  search : Search

/-- Reading, with the disk at hand. -/
abbrev FindReader := ReaderT (Call × Disk) (StateT FindReading (Except String))

namespace FindReader

/-- The next word, without taking it. -/
def peek : FindReader (Option String) := do return (← get).rest.head?

/-- Takes the next word. -/
def take : FindReader Unit := modify fun s => { s with rest := s.rest.drop 1, before := s.rest.headD s.before }

/-- Takes the argument of a test. -/
def argument (test : String) : FindReader String := do
  match (← get).rest with
  | [] => throw ("missing argument to " ++ "\x60" ++ test ++ "'")
  | word :: _ =>
    modify fun s => { s with rest := s.rest.drop 1 }
    return word

/-- Notes how trees are gone through. -/
def setting (f : Search → Search) : FindReader FindTest := do
  modify fun s => { s with search := f s.search }
  return .always true

/-- Notes that the expression does something. -/
def acting (t : FindTest) : FindReader FindTest := do
  modify fun s => { s with search := { s.search with acts := true } }
  return t

/-- The words of a program to be run, up to their end. -/
def runWords (test : String) (allowsAll : Bool) : Nat → List String → FindReader (List String × Bool)
  | 0, _ => throw ("missing argument to " ++ "\x60" ++ test ++ "'")
  | fuel + 1, words => do
    let word ← argument test
    if word = ";" then return (words.reverse, false)
    else if allowsAll && word = "+" && words.head? = some "\x7b\x7d" then return (words.reverse.dropLast, true)
    else runWords test allowsAll fuel (word :: words)

/-- A regular expression in the older notation, in which grouping and choice need a backslash and the other operators do
not, put into the newer one. -/
def modernRegex : List Char → List Char
  | '\\' :: c :: rest =>
    if c ∈ ['(', ')', '|'] then c :: modernRegex rest else '\\' :: c :: modernRegex rest
  | c :: rest => (if c ∈ ['(', ')', '|', '\x7b', '\x7d'] then ['\\', c] else [c]) ++ modernRegex rest
  | [] => []

/-- A regular expression in some notation. -/
def regexOf (style text : String) (ignoresCase : Bool) : Except String Posix.Node :=
  let basic := style ∈ ["posix-basic", "grep", "sed", "ed"]
  let older := style = "" || style = "emacs" || style = "findutils-default"
  let text := if older then String.ofList (modernRegex text.toList) else text
  match Posix.parse { extended := !basic, ignoresCase, strict := false } text with
  | .ok (node, _) => .ok node
  | .error f => .error ("failed to compile regular expression '" ++ text ++ "': " ++ f.message)

/-- The number of bytes in a unit of size. -/
def sizeUnit? (letter : Char) : Option Nat :=
  [('b', 512), ('c', 1), ('w', 2), ('k', 1024), ('M', 1048576), ('G', 1073741824)].lookup letter

/-- Reads a bound, or complains. -/
def bound (test : String) : FindReader Bound := do
  let text ← argument test
  match Bound.ofText? text with
  | some b => return b
  | none => throw ("invalid argument " ++ "\x60" ++ text ++ "' to " ++ "\x60" ++ test ++ "'")

/-- A depth that an option gives. -/
def depth (test : String) : FindReader Nat := do
  let text ← argument test
  match wholeNatural? text with
  | some n => return n
  | none => throw ("Expected a positive decimal integer argument to " ++ test ++ ", but got " ++ shellQuoted text)

/-- The letters of kinds of files. -/
def kinds (test : String) : FindReader (List Char) := do
  let text ← argument test
  let letters := text.toList.filter (· ≠ ',')
  match letters.find? fun c => !(c ∈ ['f', 'd', 'l', 'p', 's', 'b', 'c']) with
  | some _ => throw ("Unknown argument to " ++ test ++ ": " ++ text)
  | none => return letters

/-- The time of the last change of a file that is compared with. -/
def stampOf (test : String) : FindReader Nat := do
  let name ← argument test
  let (c, disk) ← read
  match disk.entry? (c.path name) with
  | .ok e => return e.stamp
  | .error e => throw (shellQuoted name ++ ": " ++ e.text)

/-- A program to be run for files. -/
def program (test : String) (style : RunStyle) (inDirectory : Bool) : FindReader FindTest := do
  let (words, together) ← runWords test (style = .each) ((← get).rest.length + 1) []
  if words.isEmpty then throw ("missing argument to " ++ "\x60" ++ test ++ "'")
  if together && words.contains "\x7b\x7d" then
    throw ("Only one instance of \x7b\x7d is supported with " ++ test ++ " ... +")
  let s ← get
  set { s with search := { s.search with runs := s.search.runs + 1 } }
  acting (.run s.search.runs (if together then .together else style) words inDirectory)

/-- A test by its name. -/
def test (name : String) : FindReader FindTest := do
  match name with
  | "-name" => return .name (← argument name) false
  | "-iname" => return .name (← argument name) true
  | "-path" | "-wholename" => return .path (← argument name) false
  | "-ipath" | "-iwholename" => return .path (← argument name) true
  | "-lname" => return .linkName (← argument name) false
  | "-ilname" => return .linkName (← argument name) true
  | "-regex" | "-iregex" =>
    let text ← argument name
    match regexOf (← get).search.regexType text (name = "-iregex") with
    | .ok node => return .regex node (name = "-iregex")
    | .error message => throw message
  | "-regextype" =>
    let style ← argument name
    setting fun s => { s with regexType := style }
  | "-type" => return .kind (← kinds name)
  | "-xtype" => return .linkedKind (← kinds name)
  | "-empty" => return .empty
  | "-true" => return .always true
  | "-false" | "-nouser" | "-nogroup" => return .always false
  | "-readable" | "-writable" => return .always true
  | "-executable" => return .executable
  | "-size" =>
    let text ← argument name
    let letter := text.toList.getLast?.getD '0'
    match sizeUnit? letter with
    | some unit =>
      match Bound.ofText? (String.ofList text.toList.dropLast) with
      | some b => return .size b unit
      | none => throw ("Invalid argument " ++ "\x60" ++ text ++ "' to -size")
    | none =>
      match Bound.ofText? text with
      | some b => return .size b 512
      | none =>
        if letter.isDigit then throw ("Invalid argument " ++ "\x60" ++ text ++ "' to -size")
        else throw ("invalid -size type " ++ "\x60" ++ String.singleton letter ++ "'")
  | "-newer" | "-anewer" | "-cnewer" => return .newer (← stampOf name)
  | "-mtime" | "-ctime" | "-atime" | "-mmin" | "-cmin" | "-amin" => return .age (← bound name)
  | "-links" => return .links (← bound name)
  | "-inum" =>
    let _ ← bound name
    return .always false
  | "-uid" | "-gid" => return .always ((← bound name).admits 0)
  | "-user" | "-group" =>
    let who ← argument name
    if who = "root" || who = "0" then return .always true
    else if (wholeNatural? who).isSome then return .always false
    else if name = "-user" then throw (shellQuoted who ++ " is not the name of a known user")
    else throw (shellQuoted who ++ " is not the name of an existing group")
  | "-perm" =>
    let text ← argument name
    let sign := text.toList.head?.filter fun c => c = '-' || c = '/'
    match modeOf? (if sign.isSome then String.ofList (text.toList.drop 1) else text) with
    | some change => return .mode sign (change false 0)
    | none => throw ("invalid mode " ++ shellQuoted text)
  | "-samefile" =>
    let file ← argument name
    let (c, disk) ← read
    match disk.placeOf? (c.path file) with
    | .ok place => return .sameFile place
    | .error e => throw (shellQuoted file ++ ": " ++ e.text)
  | "-print" => acting (.print "\n")
  | "-print0" => acting (.print "\x00")
  | "-printf" => acting (.format (← argument name).toList)
  | "-ls" => acting (.format "%i %k %M %n %u %g %s Jan  1 00:00 %p\\n".toList)
  | "-exec" => program name .each false
  | "-execdir" => program name .each true
  | "-ok" => program name .asking false
  | "-okdir" => program name .asking true
  | "-delete" =>
    let t ← acting .delete
    let _ ← setting fun s => { s with depthFirst := true }
    return t
  | "-prune" => return .prune
  | "-quit" => return .quit
  | "-depth" | "-d" => setting fun s => { s with depthFirst := true }
  | "-maxdepth" =>
    let n ← depth name
    setting fun s => { s with most := some n }
  | "-mindepth" =>
    let n ← depth name
    setting fun s => { s with least := n }
  | "-follow" => setting fun s => { s with followsAll := true }
  | "-mount" | "-xdev" | "-noleaf" | "-warn" | "-nowarn" | "-daystart" | "-ignore_readdir_race" => return .always true
  | _ =>
    let (c, disk) ← read
    if name.startsWith "-" then throw ("unknown predicate " ++ "\x60" ++ name ++ "'")
    else
      let before := (← get).before
      let hint := if (disk.entry? (c.path name)).isOk && before.startsWith "-" then
          "\n" ++ c.name ++ ": possible unquoted pattern after predicate " ++ "\x60" ++ before ++ "'?"
        else ""
      throw ("paths must precede expression: " ++ "\x60" ++ name ++ "'" ++ hint)

/-- The words that join two expressions. -/
def isJoining (word : String) : Bool := word ∈ ["-o", "-or", "-a", "-and", ","]

mutual

/-- Expressions joined by commas. -/
def expression : Nat → FindReader FindExpr
  | 0 => throw "expression too long"
  | fuel + 1 => do
    let first ← alternatives fuel
    moreLists fuel first

/-- More expressions after commas. -/
def moreLists : Nat → FindExpr → FindReader FindExpr
  | 0, e => return e
  | fuel + 1, e => do
    if (← peek) = some "," then
      take
      needOperand ","
      moreLists fuel (.list e (← alternatives fuel))
    else return e

/-- Expressions joined by "or". -/
def alternatives : Nat → FindReader FindExpr
  | 0 => throw "expression too long"
  | fuel + 1 => do
    let first ← conjunction fuel
    moreAlternatives fuel first

/-- More expressions after "or". -/
def moreAlternatives : Nat → FindExpr → FindReader FindExpr
  | 0, e => return e
  | fuel + 1, e => do
    match ← peek with
    | some word =>
      if word = "-o" || word = "-or" then
        take
        needOperand word
        moreAlternatives fuel (.either e (← conjunction fuel))
      else return e
    | none => return e

/-- Expressions joined by "and", which may be left out. -/
def conjunction : Nat → FindReader FindExpr
  | 0 => throw "expression too long"
  | fuel + 1 => do
    let first ← single fuel
    moreConjuncts fuel first

/-- More expressions after "and". -/
def moreConjuncts : Nat → FindExpr → FindReader FindExpr
  | 0, e => return e
  | fuel + 1, e => do
    match ← peek with
    | none => return e
    | some word =>
      if word = "-a" || word = "-and" then
        take
        needOperand word
        moreConjuncts fuel (.both e (← single fuel))
      else if isJoining word || word = ")" then return e
      else moreConjuncts fuel (.both e (← single fuel))

/-- A test, or an expression in parentheses, perhaps negated. -/
def single : Nat → FindReader FindExpr
  | 0 => throw "expression too long"
  | fuel + 1 => do
    match ← peek with
    | none => throw "invalid expression"
    | some word =>
      if isJoining word then
        throw ("invalid expression; you have used a binary operator '" ++ word ++ "' with nothing before it.")
      else if word = "!" || word = "-not" then
        take
        needOperand word
        return .negated (← single fuel)
      else if word = "(" then
        take
        if (← peek) = some ")" then
          throw "invalid expression; empty parentheses are not allowed."
        let e ← expression fuel
        if (← peek) = some ")" then
          take
          return e
        else throw "invalid expression; I was expecting to find a ')' somewhere but did not see one."
      else if word = ")" then throw "invalid expression; you have too many ')'"
      else
        modify fun s => { s with rest := s.rest.drop 1 }
        let t ← test word
        modify fun s => { s with before := word }
        return .test t

/-- Makes sure that something follows a joining word. -/
def needOperand (word : String) : FindReader Unit := do
  if (← get).rest.isEmpty then throw ("expected an expression after '" ++ word ++ "'")

end

/-- The whole expression, none if there are no words. -/
def whole : FindReader (Option FindExpr) := do
  let s ← get
  if s.rest.isEmpty then return none
  let e ← expression (8 * s.rest.length + 16)
  match ← peek with
  | some ")" => throw "you have too many ')'"
  | _ => return some e

end FindReader

/-! ## Looking at files -/

/-- A file on the way: how it is shown, where it is, what it is, how deep it is below its beginning, and which that
is. -/
structure Found where
  path : String
  entry : Entry
  depth : Nat
  start : String

namespace Found

/-- The name without the way to it. -/
def name (f : Found) : String := lastName f.path

/-- The way to the file. -/
def directory (f : Found) : String :=
  let names := f.path.splitOn "/"
  if names.length = 1 then "." else "/".intercalate names.dropLast

/-- The letter of the file's kind. -/
def letter (f : Found) : Char :=
  match f.entry with
  | .dir _ => 'd'
  | .link _ => 'l'
  | .file _ _ => 'f'

end Found

/-- What is kept in mind while trees are gone through. -/
structure Finding where
  /-- Whether what is in the directory is passed over. -/
  pruned : Bool
  stopped : Bool
  well : Bool
  /-- The files for the programs that are run for all together, in reverse order, by the number of the program. -/
  held : List (Nat × String)

/-- One directive of a format. -/
def formatField (f : Found) (letter : Char) : Option String :=
  let below := String.ofList (f.path.toList.drop f.start.length)
  match letter with
  | 'p' => some f.path
  | 'f' => some f.name
  | 'h' => some f.directory
  | 'P' => some (if below.startsWith "/" then String.ofList (below.toList.drop 1) else below)
  | 'H' => some f.start
  | 'd' => some (toString f.depth)
  | 'y' | 'Y' => some (String.singleton f.letter)
  | 's' => some (toString f.entry.size)
  | 'm' => some (String.ofList (Nat.toDigits 8 f.entry.mode))
  | 'M' => some (entryLetters f.entry)
  | 'u' | 'g' => some "root"
  | 'U' | 'G' => some "0"
  | 'n' => some (statField f.path f.entry 'h')
  | 'k' => some (toString f.entry.blocks)
  | 'b' => some (toString (2 * f.entry.blocks))
  | 'i' => some (toString (1000000 + f.entry.stamp))
  | 'l' => some (match f.entry with
    | .link target => Bytes.ofText target
    | _ => "")
  | '%' => some "%"
  | _ => none

/-- A format written out for a file. -/
def formatFound (f : Found) : List Char → String
  | '%' :: letter :: rest =>
    match formatField f letter with
    | some text => text ++ formatFound f rest
    | none => "%" ++ String.singleton letter ++ formatFound f rest
  | '\\' :: c :: rest =>
    let shown := match c with
      | 'n' => "\n"
      | 't' => "\t"
      | '0' => "\x00"
      | 'a' => "\x07"
      | 'b' => "\x08"
      | 'f' => "\x0c"
      | 'r' => "\r"
      | 'v' => "\x0b"
      | '\\' => "\\"
      | c => "\\" ++ String.singleton c
    shown ++ formatFound f rest
  | c :: rest => String.singleton c ++ formatFound f rest
  | [] => ""

/-- Whether a pattern covers a text. -/
def fits (pattern text : String) (ignoresCase : Bool) : Bool :=
  if ignoresCase then Shell.covers (Shell.unquoted pattern.toLower) text.toLower
  else Shell.covers (Shell.unquoted pattern) text

/-- How old a file is in the units of tests: not at all, unless it was given an older time. -/
def ageOf : Entry → Nat
  | .file _ ⟨_, 0⟩ => 10000
  | _ => 0

/-- Runs a program for a file. -/
def runFor (c : Call) (style : RunStyle) (words : List String) (inDirectory : Bool) (f : Found) (s : Finding) :
    Action (Bool × Finding) := do
  let shown := if inDirectory then "./" ++ f.name else f.path
  let words := words.map (replaceAll "\x7b\x7d" shown)
  let agreed ← match style with
    | .asking => do
      .write 2 ("< " ++ words.headD "" ++ " ... " ++ shown ++ " > ? ") (.done ())
      .line fun answer => return answer.toLower.startsWith "y"
    | _ => pure true
  match agreed, words with
  | true, name :: args =>
    let directory := if inDirectory then some (c.path f.directory) else none
    match ← .run { c.order name args with directory } with
    | .ended (.code n) => return (n = 0, s)
    | .ended (.signal n) | .overdue (.signal n) =>
      c.complain (shellQuoted name ++ " terminated by signal " ++ toString n)
      return (false, s)
    | .overdue _ => return (false, s)
    | .notStarted e =>
      c.complain (shellQuoted name ++ ": " ++ e.text)
      return (false, s)
  | _, _ => return (false, s)

/-- Removes a file that was found. -/
def deleteFound (c : Call) (f : Found) (s : Finding) : Action (Bool × Finding) := do
  let disk ← .disk
  let fail (text : String) : Action (Bool × Finding) := do
    c.complain ("cannot delete " ++ shellQuoted f.path ++ ": " ++ text)
    return (false, { s with well := false })
  if f.path = "." then return (true, s)
  match disk.locateItself (c.path (withoutSlashes f.path)) with
  | .ok (.taken _ (.dir (_ :: _))) => fail PathError.notEmpty.text
  | .ok (.taken place _) =>
    .keep (disk.put place none)
    return (true, s)
  | .ok (.vacant _) => fail PathError.notFound.text
  | .error e => fail e.text

/-- A test of a file. -/
def FindTest.holds (c : Call) (disk : Disk) (f : Found) (s : Finding) : FindTest → Action (Bool × Finding)
  | .always value => return (value, s)
  | .name pattern ignoresCase => return (fits pattern f.name ignoresCase, s)
  | .path pattern ignoresCase => return (fits pattern f.path ignoresCase, s)
  | .linkName pattern ignoresCase =>
    match f.entry with
    | .link target => return (fits pattern (Bytes.ofText target) ignoresCase, s)
    | _ => return (false, s)
  | .regex node ignoresCase =>
    let subject : Posix.Subject := { text := f.path.toList.toArray, multiline := false, ignoresCase }
    return ((node.ends subject (0, [])).any fun r => r.1 = subject.text.size, s)
  | .kind letters => return (letters.contains f.letter, s)
  | .linkedKind letters =>
    match disk.entry? (c.path f.path) with
    | .ok e => return (letters.contains { f with entry := e }.letter, s)
    | .error _ => return (letters.contains 'l', s)
  | .empty =>
    match f.entry with
    | .file bytes _ => return (bytes.isEmpty, s)
    | .dir entries => return (entries.isEmpty, s)
    | .link _ => return (false, s)
  | .size bound unit => return (bound.admits ((f.entry.size + unit - 1) / unit), s)
  | .newer stamp => return (decide (stamp < f.entry.stamp), s)
  | .age bound => return (bound.admits (ageOf f.entry), s)
  | .links bound => return (bound.admits ((statField f.path f.entry 'h').toNat?.getD 1), s)
  | .mode sign bits =>
    let mode := f.entry.mode
    return (match sign with
      | none => mode = bits
      | some '-' => mode &&& bits = bits
      | some _ => bits = 0 || mode &&& bits ≠ 0, s)
  | .executable => return (f.entry.isDir || f.entry.mode &&& 0o111 ≠ 0, s)
  | .sameFile place => return (decide ((disk.placeOf? (c.path f.path)).toOption = some place && !f.entry.isLink), s)
  | .print ending => do
    .say (f.path ++ ending)
    return (true, s)
  | .format text => do
    .say (formatFound f text)
    return (true, s)
  | .run number .together _ _ => return (true, { s with held := (number, f.path) :: s.held })
  | .run _ style words inDirectory => runFor c style words inDirectory f s
  | .delete => deleteFound c f s
  | .prune => return (true, { s with pruned := true })
  | .quit => return (true, { s with stopped := true })

/-- An expression about a file. -/
def FindExpr.holds (c : Call) (disk : Disk) (f : Found) : FindExpr → Finding → Action (Bool × Finding)
  | .test t, s => if s.stopped then return (false, s) else t.holds c disk f s
  | .negated e, s => do
    let (value, s) ← e.holds c disk f s
    return (!value, s)
  | .both a b, s => do
    let (value, s) ← a.holds c disk f s
    if value then b.holds c disk f s else return (false, s)
  | .either a b, s => do
    let (value, s) ← a.holds c disk f s
    if value then return (true, s) else b.holds c disk f s
  | .list a b, s => do
    let (_, s) ← a.holds c disk f s
    b.holds c disk f s

/-- The programs of an expression that are run for all files together. -/
def FindExpr.togetherRuns : FindExpr → List (Nat × List String)
  | .test (.run number .together words _) => [(number, words)]
  | .test _ => []
  | .negated e => e.togetherRuns
  | .both a b | .either a b | .list a b => a.togetherRuns ++ b.togetherRuns

/-- How deep trees are gone through at most. -/
def findDepth : Nat := 300

/-- Goes through a tree. -/
def walkTree (c : Call) (o : Search) (e : FindExpr) : Nat → Found → Finding → Action Finding
  | 0, _, s => return s
  | fuel + 1, f, s => do
    if s.stopped then return s
    let disk ← .disk
    let look (s : Finding) : Action Finding := do
      if f.depth < o.least then return s
      return (← e.holds c disk f { s with pruned := false }).2
    let s ← if o.depthFirst then pure { s with pruned := false } else look { s with pruned := false }
    let goesOn := !(s.pruned && !o.depthFirst) && !s.stopped && o.most.all (f.depth < ·)
    let s ← if !f.entry.isDir || !goesOn then pure s
      else do
        let disk ← .disk
        let entries := match disk.entry? (c.path f.path) with
          | .ok (.dir entries) => entries
          | _ => f.entry.children
        if (disk.entry? (c.path f.path)).isOk then
          entries.foldlM (fun s (name, entry) => do
            let path := (if f.path.endsWith "/" then f.path else f.path ++ "/") ++ Bytes.ofText name
            let entry := match o.followsAll, disk.entry? (c.path path) with
              | true, .ok there => there
              | _, _ => entry
            walkTree c o e fuel ⟨path, entry, f.depth + 1, f.start⟩ s) s
        else
          c.complain (shellQuoted f.path ++ ": No such file or directory")
          pure { s with well := false }
    if o.depthFirst then look s else return s

/-- The options before the paths. -/
def followOptions : Search → List String → Search × List String
  | s, arg :: rest =>
    match arg with
    | "-H" => followOptions { s with followsGiven := true, followsAll := false } rest
    | "-L" => followOptions { s with followsGiven := true, followsAll := true } rest
    | "-P" => followOptions { s with followsGiven := false, followsAll := false } rest
    | "-D" => followOptions s (rest.drop 1)
    | _ => if arg.startsWith "-O" then followOptions s rest else (s, arg :: rest)
  | s, [] => (s, [])
termination_by _ args => args.length
decreasing_by all_goals simp_wf; try omega

/-- Whether a word begins the expression. -/
def beginsExpression (word : String) : Bool := (word.startsWith "-" && word ≠ "-") || word ∈ ["(", ")", "!", ","]

/-- Runs the programs that are run for all files together. -/
def runTogether (c : Call) (held : List (Nat × String)) : Bool → List (Nat × List String) → Action Bool
  | well, [] => return well
  | well, (number, words) :: rest => do
    let files := ((held.filter (·.1 = number)).map (·.2)).reverse
    match files.isEmpty, words with
    | false, name :: args =>
      match ← .run (c.order name (args ++ files)) with
      | .ended (.code 0) => runTogether c held well rest
      | .notStarted e =>
        c.complain (shellQuoted name ++ ": " ++ e.text)
        runTogether c held false rest
      | _ => runTogether c held false rest
    | _, _ => runTogether c held well rest

/-- `find`. -/
def findProgram : Tool := fun c => do
  let disk ← .disk
  let (search, args) := followOptions ⟨0, none, false, false, false, "", false, 0⟩ c.args
  let paths := args.takeWhile fun word => !beginsExpression word
  match ((FindReader.whole.run (c, disk)).run ⟨args.drop paths.length, "", search⟩) with
  | .error message => c.refuse message 1
  | .ok (e, reading) =>
    let search := { reading.search with followsGiven := reading.search.followsGiven || reading.search.followsAll }
    let printing : FindExpr := .test (.print "\n")
    let e := match e with
      | none => printing
      | some e => if search.acts then e else .both e printing
    let paths := if paths.isEmpty then ["."] else paths
    let s ← paths.foldlM (fun (s : Finding) path => do
      let disk ← .disk
      let found : Except PathError Entry := if path = "" then .error .notFound
        else
          match search.followsGiven, disk.entry? (c.path path) with
          | true, .ok e => .ok e
          | _, _ => if path.endsWith "/" then disk.entry? (c.path path) else disk.entryItself? (c.path path)
      match found with
      | .error e =>
        c.complain (shellQuoted path ++ ": " ++ e.text)
        return { s with well := false }
      | .ok entry => walkTree c search e findDepth ⟨path, entry, 0, path⟩ s) ⟨false, false, true, []⟩
    let well ← runTogether c s.held s.well e.togetherRuns
    return statusOf well

end GateRunner
