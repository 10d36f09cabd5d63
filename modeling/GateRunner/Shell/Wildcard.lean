import GateRunner.Project.Disk
import GateRunner.Text.Bytes

/-!
# Wildcards

The shell's own patterns: `*` stands for any text, `?` for any character, and brackets for one of several characters.
A character of a pattern that was quoted stands for itself, and so does one after a backslash; a backslash that is not
quoted itself can only have come out of a variable. A pattern is matched by following all the ways through it
at once, so no text makes it slow.
-/

namespace GateRunner.Shell

/-- A text in which each character is marked as quoted or not. -/
abbrev Marked := List (Char × Bool)

/-- A text without its marks. -/
def plain (m : Marked) : String := String.ofList (m.map (·.1))

/-- A text with none of it quoted. -/
def unquoted (text : String) : Marked := text.toList.map (·, false)

/-- An element of a pattern: any text, or one character. -/
inductive Wildcard
  | anyText
  | one (test : Char → Bool)

/-- The characters of a class in brackets, by its name. -/
def characterClass? (name : String) : Option (Char → Bool) :=
  match name with
  | "alnum" => some Char.isAlphanum
  | "alpha" => some Char.isAlpha
  | "blank" => some fun c => c = ' ' || c = '\t'
  | "cntrl" => some fun c => c.toNat < 32 || c.toNat = 127
  | "digit" => some Char.isDigit
  | "graph" => some fun c => 32 < c.toNat && c.toNat < 127
  | "lower" => some Char.isLower
  | "print" => some fun c => 32 ≤ c.toNat && c.toNat < 127
  | "punct" => some fun c => 32 < c.toNat && c.toNat < 127 && !c.isAlphanum
  | "space" => some fun c => c = ' ' || (9 ≤ c.toNat && c.toNat ≤ 13)
  | "upper" => some Char.isUpper
  | "xdigit" => some fun c => c.isDigit || ('a' ≤ c && c ≤ 'f') || ('A' ≤ c && c ≤ 'F')
  | _ => none

/-- The class that stands at the front of a text, after its opening bracket and colon. -/
def classAtFront? (text : Marked) : Option ((Char → Bool) × Marked) :=
  let name := text.takeWhile (fun c => c.1.isAlpha)
  match text.drop name.length, characterClass? (plain name) with
  | (':', false) :: (']', false) :: rest, some test => some (test, rest)
  | _, _ => none

/-- The members of a bracket, up to its end: a test for characters, and the pattern after it. -/
def bracket? : Nat → Bool → (Char → Bool) → Marked → Option ((Char → Bool) × Marked)
  | 0, _, _, _ => none
  | _, _, _, [] => none
  | fuel + 1, first, test, (c, quoted) :: rest =>
    let onward (more : Char → Bool) (rest : Marked) := bracket? fuel false (fun d => test d || more d) rest
    if c = ']' && !quoted && !first then some (test, rest)
    else if c = '\\' && !quoted && !rest.isEmpty then
      onward (fun d => (rest.head?.map (·.1)) = some d) (rest.drop 1)
    else
      let asClass := match c, quoted, rest with
        | '[', false, (':', false) :: after => classAtFront? after
        | _, _, _ => none
      match asClass with
      | some (members, after) => onward members after
      | none =>
        match rest with
        | ('-', false) :: (high, highQuoted) :: after =>
          if high = ']' && !highQuoted then onward (· = c) rest else onward (fun d => c ≤ d && d ≤ high) after
        | _ => onward (· = c) rest

/-- A pattern by its elements. -/
def wildcards : Nat → Marked → List Wildcard
  | 0, _ => []
  | _, [] => []
  | fuel + 1, ('*', false) :: rest => .anyText :: wildcards fuel rest
  | fuel + 1, ('?', false) :: rest => .one (fun _ => true) :: wildcards fuel rest
  | fuel + 1, ('[', false) :: rest =>
    let found := match rest with
      | ('!', false) :: inner | ('^', false) :: inner =>
        (bracket? (inner.length + 1) true (fun _ => false) inner).map fun (test, after) => ((fun c => !test c), after)
      | _ => bracket? (rest.length + 1) true (fun _ => false) rest
    match found with
    | some (test, after) => .one test :: wildcards fuel after
    | none => .one (· = '[') :: wildcards fuel rest
  | fuel + 1, ('\\', false) :: (c, _) :: rest => .one (· = c) :: wildcards fuel rest
  | fuel + 1, (c, _) :: rest => .one (· = c) :: wildcards fuel rest

/-- The elements of a pattern. -/
def Wildcard.ofMarked (m : Marked) : List Wildcard := wildcards (m.length + 1) m

/-- The ways to go on from some element: a text of any length may be empty. -/
def Wildcard.ways : List Wildcard → List (List Wildcard)
  | .anyText :: rest => (.anyText :: rest) :: ways rest
  | pattern => [pattern]

/-- Ways given more than once left out. Ways are ends of one pattern, so their lengths tell them apart. -/
def Wildcard.distinct : List (List Wildcard) → List (List Wildcard)
  | [] => []
  | way :: rest => way :: (distinct rest).filter (·.length ≠ way.length)

/-- The ways left after one character. -/
def Wildcard.after (c : Char) (ways : List (List Wildcard)) : List (List Wildcard) :=
  distinct (ways.flatMap fun way =>
    match way with
    | .anyText :: rest => Wildcard.ways (.anyText :: rest)
    | .one test :: rest => if test c then Wildcard.ways rest else []
    | [] => [])

/-- Whether some way covers a text. -/
def Wildcard.cover : List (List Wildcard) → List Char → Bool
  | ways, [] => ways.any (·.isEmpty)
  | ways, c :: rest => !ways.isEmpty && cover (Wildcard.after c ways) rest

/-- Whether a pattern covers a text. -/
def covers (pattern : Marked) (text : String) : Bool :=
  Wildcard.cover (Wildcard.ways (Wildcard.ofMarked pattern)) text.toList

/-- How many characters at the front of a text the pattern can cover, shortest first, of which some have been passed. -/
def Wildcard.reaches : Nat → List (List Wildcard) → List Char → List Nat
  | passed, ways, [] => if ways.any (·.isEmpty) then [passed] else []
  | passed, ways, c :: rest =>
    (if ways.any (·.isEmpty) then [passed] else []) ++
      if ways.isEmpty then [] else reaches (passed + 1) (Wildcard.after c ways) rest

/-- Whether a text holds a sign that makes it a pattern. -/
def isPattern : Marked → Bool
  | [] => false
  | [(c, quoted)] => !quoted && (c = '*' || c = '?' || c = '[')
  | (c, quoted) :: d :: rest =>
    if quoted then isPattern (d :: rest)
    else if c = '\\' then isPattern rest
    else c = '*' || c = '?' || c = '[' || isPattern (d :: rest)

/-- A marked text cut at its slashes. -/
def components (m : Marked) : List Marked :=
  m.foldr (fun c acc =>
    match acc with
    | [] => [[c]]
    | first :: rest => if c.1 = '/' then [] :: first :: rest else (c :: first) :: rest) [[]]

/-- The paths below a directory that the components of a pattern cover. What has no wildcard is taken as it
stands, and only has to be there in the end. -/
def pathsCovered (disk : Disk) (directory : String) : List Marked → List String
  | [] => [""]
  | first :: rest =>
    if !isPattern first then
      let name := plain first
      let below := if name = "" then directory else joinPath directory (Bytes.toText name)
      if rest.isEmpty then
        let there := if name = "" then disk.holdsDirectory directory else (disk.entryItself? below).isOk
        if there then [name] else []
      else (pathsCovered disk below rest).map (fun r => name ++ "/" ++ r)
    else
      match disk.entry? directory with
      | .ok (.dir entries) =>
        let hidden := first.head?.any (fun c => c.1 = '.')
        let dots := if hidden then [".", ".."] else []
        let names := (dots ++ entries.map (fun e => Bytes.ofText e.1)).filter fun n =>
          covers first n && (hidden || !n.startsWith ".")
        names.flatMap fun name =>
          if rest.isEmpty then [name]
          else (pathsCovered disk (joinPath directory (Bytes.toText name)) rest).map (fun r => name ++ "/" ++ r)
      | _ => []

/-- The texts a field stands for: the paths it covers if it is a pattern that covers any, and otherwise itself. -/
def pathsOf (disk : Disk) (directory : String) (field : Marked) : List String :=
  if isPattern field then
    let found := match components field with
      | [] :: rest => (pathsCovered disk "/" rest).map ("/" ++ ·)
      | all => pathsCovered disk directory all
    if found.isEmpty then [plain field] else found.mergeSort (· ≤ ·)
  else [plain field]

end GateRunner.Shell
