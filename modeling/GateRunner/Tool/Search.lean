import GateRunner.Posix.Reader
import GateRunner.Tool.Count

/-!
# Searching in files

`grep` shows the lines of files that match one of some patterns, or those that do not, with lines around them if that is
wished; or only the names of the files, or how many lines there are.
-/

namespace GateRunner

open Posix (Node Dialect Subject)

/-- Patterns to be searched for. -/
structure Searcher where
  nodes : List Node
  ignoresCase : Bool
  words : Bool
  wholeLines : Bool

namespace Searcher

/-- The first match in a line from a place on: where it begins and ends. -/
def find? (s : Searcher) (line : Array Char) (place : Nat) : Option (Nat × Nat) :=
  let subject : Subject := ⟨line, false, s.ignoresCase⟩
  let good (start stop : Nat) : Bool :=
    (!s.wholeLines || (start = 0 && stop = line.size)) &&
      (!s.words || (!subject.isWordBefore start && !subject.isWord stop))
  let found := s.nodes.filterMap fun n => Posix.searchFrom n subject good (line.size + 1) place
  let spans := found.map fun m => (m.start, m.stop)
  let better (a b : Nat × Nat) : Bool := a.1 < b.1 || (a.1 = b.1 && b.2 ≤ a.2)
  spans.foldl (fun best span =>
    match best with
    | some b => some (if better b span then b else span)
    | none => some span) none

/-- All matches in a line that are not empty. -/
def spans (s : Searcher) (line : Array Char) : Nat → Nat → List (Nat × Nat)
  | 0, _ => []
  | fuel + 1, place =>
    match s.find? line place with
    | none => []
    | some (start, stop) =>
      if stop = start then s.spans line fuel (start + 1) else (start, stop) :: s.spans line fuel stop

end Searcher

/-- An expression that matches a text and nothing else. -/
def literalNode (d : Dialect) (text : String) : Node :=
  text.toList.foldr (fun c rest => .seq (.one (d.fold (· = c))) rest) .empty

/-- What is shown of lines. -/
structure SearchStyle where
  searcher : Searcher
  inverted : Bool
  counts : Bool
  names : Bool
  namesWithout : Bool
  quiet : Bool
  partsOnly : Bool
  numbers : Bool
  offsets : Bool
  before : Nat
  after : Nat
  limit : Option Nat
  asText : Bool
  separator : Option String
  silent : Bool
  withNames : Bool
  label : String

namespace SearchStyle

/-- Whether lines are shown at all. -/
def showsLines (o : SearchStyle) : Bool := !(o.counts || o.names || o.namesWithout || o.quiet)

end SearchStyle

/-- How far a search in a text has come. -/
structure SearchState where
  number : Nat
  offset : Nat
  selected : Nat
  /-- The lines before this one that may be shown yet, the last first, with their numbers and offsets. -/
  before : List (Nat × Nat × String)
  /-- How many lines are shown after the last that was selected. -/
  after : Nat
  lastShown : Nat
  binary : Bool
  stopped : Bool

/-- The beginning of a search. -/
def SearchState.start (binary : Bool) : SearchState := ⟨0, 0, 0, [], 0, 0, binary, false⟩

/-- What stands before a line that is shown. -/
def SearchStyle.front (o : SearchStyle) (name : String) (mark : String) (number offset : Nat) : String :=
  (if o.withNames then name ++ mark else "") ++ (if o.numbers then toString number ++ mark else "") ++
    if o.offsets then toString offset ++ mark else ""

/-- The text between groups of lines, if there is a gap before a line and it is not the first. -/
def SearchStyle.gap (o : SearchStyle) (s : SearchState) (number : Nat) : String :=
  if (o.before ≠ 0 || o.after ≠ 0) && s.lastShown ≠ 0 && s.lastShown + 1 < number then
    (o.separator.map (· ++ "\n")).getD ""
  else ""

/-- A selected line as it is shown. -/
def SearchStyle.shown (o : SearchStyle) (name : String) (number offset : Nat) (line : String) : String :=
  if o.partsOnly then
    if o.inverted then ""
    else
      let chars := line.toList.toArray
      String.join ((o.searcher.spans chars (chars.size + 1) 0).map fun (start, stop) =>
        o.front name ":" number (offset + start) ++ String.ofList (chars.extract start stop).toList ++ "\n")
  else o.front name ":" number offset ++ line ++ "\n"

/-- One line more: what is shown because of it. -/
def SearchStyle.line (o : SearchStyle) (name : String) (s : SearchState) (line : String) (_ended : Bool) :
    SearchState × String :=
  let number := s.number + 1
  let offset := s.offset
  let next := { s with number, offset := offset + line.length + 1 }
  let limited := o.limit.any (· ≤ s.selected)
  let selected := !limited && (o.searcher.find? line.toList.toArray 0).isSome != o.inverted
  let context (number offset : Nat) (line : String) : String :=
    if o.partsOnly then "" else o.front name "-" number offset ++ line ++ "\n"
  if selected then
    let next := { next with selected := s.selected + 1 }
    if !o.showsLines then (next, "")
    else if s.binary && !o.asText then ({ next with stopped := true }, "")
    else
      let first := (s.before.getLast?.map (·.1)).getD number
      let held := String.join (s.before.reverse.map fun (n, off, text) => context n off text)
      let out := o.gap s first ++ held ++ o.shown name number offset line
      ({ next with before := [], after := o.after, lastShown := number }, out)
  else if 0 < s.after && o.showsLines then
    ({ next with after := s.after - 1, lastShown := number }, context number offset line)
  else ({ next with before := ((number, offset, line) :: s.before).take o.before }, "")

/-- Whether nothing that is still to come can matter. -/
def SearchStyle.stops (o : SearchStyle) (s : SearchState) : Bool :=
  s.stopped || (0 < s.selected && (o.quiet || o.names || o.namesWithout)) ||
    (o.limit.any (· ≤ s.selected) && (s.after = 0 || !o.showsLines))

/-- Searching as a filter. A part of the text with a zero byte in it makes the text no text. -/
def SearchStyle.filter (o : SearchStyle) (name : String) : Filter (String × SearchState) :=
  let lines := Filter.ofLines (o.line name) o.stops
  { lines with block := fun (held, s) text =>
      lines.block (held, { s with binary := s.binary || text.toList.contains '\x00' }) text }

/-- What is shown of a text as a whole when it has been searched. -/
def SearchStyle.close (o : SearchStyle) (c : Call) (name : String) (s : SearchState) : Action Bool := do
  if s.stopped then c.complain (name ++ ": binary file matches")
  if !o.quiet then
    if o.counts && !o.names && !o.namesWithout then
      .say ((if o.withNames then name ++ ":" else "") ++ toString s.selected ++ "\n")
    if o.names && 0 < s.selected then .say (name ++ "\n")
    if o.namesWithout && s.selected = 0 then .say (name ++ "\n")
  return 0 < s.selected

/-- What came of a search: whether a line was selected, and whether something went wrong. -/
structure SearchResult where
  found : Bool
  wrong : Bool

/-- Searches in the input. -/
def searchInput (c : Call) (o : SearchStyle) : Action SearchResult := do
  match ← inputFault? with
  | some e =>
    if !o.silent then c.complain ("(standard input): " ++ e.text)
    return ⟨false, true⟩
  | none =>
    if o.limit = some 0 then return ⟨false, false⟩
    let filter := o.filter o.label
    let (_, s) ← if o.limit.isSome && (← .inputKind) = .file then filter.overInputLines Filter.blockLimit ("", .start false)
      else filter.overInput Filter.blockLimit ("", .start false)
    return ⟨← o.close c o.label s, false⟩

/-- Searches in a text under a name. -/
def searchText (c : Call) (o : SearchStyle) (name text : String) : Action SearchResult := do
  let s : SearchState := .start (text.toList.contains '\x00')
  let (_, s) ← (o.filter name).overText ("", s) text
  return ⟨← o.close c name s, false⟩

/-- Which files are searched in below directories. -/
structure SearchScope where
  recursive : Bool
  includes : String → Bool
  excludesDir : String → Bool

/-- Searches in a file or, below it, in all files of a directory. -/
def searchPath (c : Call) (o : SearchStyle) (scope : SearchScope) : Nat → Bool → String → Action SearchResult
  | 0, _, _ => return ⟨false, true⟩
  | fuel + 1, given, name => do
    let disk ← .disk
    match if given then disk.entry? (c.path name) else disk.entryItself? (c.path name) with
    | .ok (.file bytes _) =>
      if scope.includes name then searchText c o name (Bytes.ofList bytes) else return ⟨false, false⟩
    | .ok (.link _) => return ⟨false, false⟩
    | .ok (.dir entries) =>
      if !scope.recursive then
        if !o.silent then c.complain (name ++ ": Is a directory")
        return ⟨false, true⟩
      else
        entries.foldlM (fun (r : SearchResult) (child, entry) => do
          if entry.isDir && scope.excludesDir (Bytes.ofText child) then return r
          let below := (if name.endsWith "/" then name else name ++ "/") ++ Bytes.ofText child
          let path := if given && name = "" then Bytes.ofText child else below
          let inner ← searchPath c o scope fuel false path
          return ⟨r.found || inner.found, r.wrong || inner.wrong⟩) ⟨false, false⟩
    | .error e => do
      if !o.silent then c.complain (name ++ ": " ++ e.text)
      return ⟨false, true⟩

/-- The options of `grep`. -/
def grepOptions : List OptionSpec :=
  [flag 'E' "extended-regexp", flag 'F' "fixed-strings", flag 'G' "basic-regexp", flag 'P' "perl-regexp",
    valued 'e' "regexp", valued 'f' "file", flag 'i' "ignore-case", flag 'i' "", flag 'y' "", flag 'w' "word-regexp",
    flag 'x' "line-regexp", flag 'c' "count", flag 'l' "files-with-matches", flag 'L' "files-without-match",
    flag 'o' "only-matching", flag 'q' "quiet", flag 'q' "silent", flag 's' "no-messages", flag 'v' "invert-match",
    flag 'n' "line-number", flag 'b' "byte-offset", flag 'H' "with-filename", flag 'h' "no-filename",
    valued 'A' "after-context", valued 'B' "before-context", valued 'C' "context", valued 'm' "max-count",
    flag 'r' "recursive", flag 'R' "dereference-recursive", flag 'a' "text", flag 'z' "null-data", flag 'Z' "null",
    flag 'U' "binary", flag 'T' "initial-tab", flag 'I' "", valued '\x01' "include", valued '\x02' "exclude",
    valued '\x03' "exclude-dir", ⟨'\x04', "color", true, true⟩, ⟨'\x04', "colour", true, true⟩,
    valued '\x05' "label", flag '\x06' "no-group-separator", valued '\x07' "group-separator", flag '\x0b' "line-buffered",
    valued '\x0c' "binary-files", valued 'd' "directories", valued 'D' "devices"] ++
    (List.range 10).map fun i => flag (Nat.digitChar i) ""

/-- The number that options like `-12` stand for. -/
def digitOptions (given : List (Char × String)) : Option Nat :=
  let digits := ((given.map (·.1)).reverse.dropWhile (!·.isDigit)).takeWhile Char.isDigit
  if digits.isEmpty then none else some (digitsValue 10 digits.reverse)

/-- What is wrong with a call of `grep`. -/
inductive SearchFault
  | usage
  | message (text : String)

/-- The patterns of a call, by the text that holds them one on a line. -/
def searcherOf (o : Options) (letter : Char) (texts : List String) : Except SearchFault (Searcher × List String) := do
  let d : Dialect := ⟨letter = 'E' || letter = 'P', o.has 'i' || o.has 'y', false⟩
  let patterns := texts.flatMap fun text => text.splitOn "\n"
  let read (text : String) : Except SearchFault (Node × List String) :=
    if letter = 'F' then .ok (literalNode d text, [])
    else
      let named := text.startsWith "[:" && text.endsWith ":]"
      if named then .error (.message "character class syntax is [[:space:]], not [:space:]")
      else
        match Posix.parse d (if letter = 'P' then text.replace "\\d" "[0-9]" else text) with
        | .ok r => .ok r
        | .error e => .error (.message e.message)
  let nodes ← patterns.mapM read
  return (⟨nodes.map (·.1), d.ignoresCase, o.has 'w', o.has 'x'⟩, nodes.flatMap (·.2))

/-- A wildcard pattern for names, as options give it. -/
def coversName (pattern name : String) : Bool :=
  let rec go : Nat → List Char → List Char → Bool
    | 0, _, _ => false
    | _ + 1, [], text => text.isEmpty
    | fuel + 1, '*' :: rest, text =>
      go fuel rest text || (match text with
        | _ :: more => go fuel ('*' :: rest) more
        | [] => false)
    | fuel + 1, '?' :: rest, _ :: text => go fuel rest text
    | fuel + 1, c :: rest, d :: text => c = d && go fuel rest text
    | _ + 1, _ :: _, [] => false
  go (2 * (pattern.length + name.length) + 4) pattern.toList name.toList

/-- `grep`, with the letter of the kind of patterns that it takes by itself. -/
def grepWith (standard : Char) : Tool := fun c => do
  let usage : Action Nat := do
    .complain "Usage: grep [OPTION]... PATTERNS [FILE]..."
    .complain "Try 'grep --help' for more information."
    return 2
  match readOptions grepOptions c.args with
  | .error e =>
    c.complain e.message
    usage
  | .ok o =>
    let files ← (o.values 'f').mapM fun name => do
      match ← c.textOf name with
      | .ok text => return .ok (textLines text)
      | .error e => return .error (name ++ ": " ++ e.text)
    match files.mapM (fun (r : Except String (List String)) => r) with
    | .error message => c.refuse message 2
    | .ok fromFiles =>
      let given := o.values 'e' ++ fromFiles.flatten
      let named := o.has 'e' || o.has 'f'
      match named, o.operands with
      | false, [] => usage
      | _, operands =>
        let texts := if named then given else operands.take 1
        let operands := if named then operands else operands.drop 1
        let count (letter : Char) : Except String Nat :=
          match o.value? letter with
          | none => .ok 0
          | some text =>
            match wholeNatural? text with
            | some n => .ok n
            | none => .error (text ++ ": invalid context length argument")
        let around := digitOptions o.given
        let contexts : Except String (Nat × Nat) := do
          let both ← count 'C'
          let before ← count 'B'
          let after ← count 'A'
          let both := if o.has 'C' then both else around.getD 0
          return (if o.has 'B' then before else both, if o.has 'A' then after else both)
        let limit : Except String (Option Nat) :=
          match o.value? 'm' with
          | none => .ok none
          | some text =>
            match wholeNatural? text with
            | some n => .ok (some n)
            | none => if text.startsWith "-" && (wholeNatural? (String.ofList (text.toList.drop 1))).isSome then .ok none
              else .error "invalid max count"
        match contexts, limit, searcherOf o ((o.last? ['E', 'F', 'G', 'P']).getD standard) texts with
        | .error message, _, _ | _, .error message, _ => c.refuse message 2
        | _, _, .error .usage => usage
        | _, _, .error (.message text) => c.refuse text 2
        | .ok (before, after), .ok limit, .ok (searcher, remarks) =>
          remarks.forM fun text => c.complain ("warning: " ++ text)
          let recursive := o.has 'r' || o.has 'R' || o.value? 'd' = some "recurse"
          let operands := if operands.isEmpty then (if recursive then [""] else ["-"]) else operands
          let naming := o.last? ['H', 'h']
          let disk ← .disk
          let withNames := naming = some 'H' || (naming ≠ some 'h' && (1 < operands.length ||
            (recursive && operands.any fun name => disk.holdsDirectory (c.path name))))
          let style : SearchStyle :=
            { searcher, inverted := o.has 'v', counts := o.has 'c', names := o.has 'l', namesWithout := o.has 'L',
              quiet := o.has 'q', partsOnly := o.has 'o', numbers := o.has 'n', offsets := o.has 'b', before, after,
              limit, asText := o.has 'a' || o.has 'z' || o.value? '\x0c' = some "text",
              separator := if o.has '\x06' then none else some ((o.value? '\x07').getD "--"), silent := o.has 's',
              withNames, label := (o.value? '\x05').getD "(standard input)" }
          let included (name : String) : Bool :=
            let base := baseName name
            (o.values '\x01').isEmpty || (o.values '\x01').any (coversName · base)
          let excluded (name : String) : Bool :=
            (o.values '\x02').any fun p => coversName p (baseName name) || coversName p name
          let scope : SearchScope := ⟨recursive, fun name => included name && !excluded name,
            fun name => (o.values '\x03').any (coversName · name)⟩
          let rec go (r : SearchResult) : List String → Action SearchResult
            | [] => return r
            | operand :: rest => do
              let inner ← if operand = "-" then searchInput c style else searchPath c style scope 100 true operand
              let r : SearchResult := ⟨r.found || inner.found, r.wrong || inner.wrong⟩
              if style.quiet && r.found then return r else go r rest
          let r ← go ⟨false, false⟩ operands
          return if r.wrong && !(style.quiet && r.found) then 2 else if r.found then 0 else 1

end GateRunner
