import GateRunner.Tool.Count

/-!
# Comparing files

`cmp` says where two files begin to differ. `diff` says which lines have to be taken out of one file and put into it to
make the other: everything but a longest common part.
-/

namespace GateRunner

/-! ## `cmp` -/

/-- The place of the first difference: how many bytes and ends of lines are before it. -/
def firstDifference : Nat → Nat → List Char → List Char → Nat × Nat × List Char × List Char
  | bytes, lines, a :: as, b :: bs =>
    if a = b then firstDifference (bytes + 1) (if a = '\n' then lines + 1 else lines) as bs
    else (bytes, lines, a :: as, b :: bs)
  | bytes, lines, as, bs => (bytes, lines, as, bs)

/-- A byte in octal notation. -/
def octal (c : Char) : String := String.ofList (Nat.toDigits 8 c.toNat)

/-- A byte as it can be shown. -/
def shownByte (c : Char) : String :=
  let low (n : Nat) : String :=
    if n < 32 then "^" ++ String.singleton (Char.ofNat (n + 64)) else if n = 127 then "^?"
    else String.singleton (Char.ofNat n)
  if c.toNat < 128 then low c.toNat else "M-" ++ low (c.toNat - 128)

/-- `cmp`. -/
def cmpProgram : Tool := fun c =>
  let hint (message : String) : Action Nat := do
    c.complain message
    c.complain ("Try '" ++ c.name ++ " --help' for more information.")
    return 2
  match readOptions
    [flag 'b' "print-bytes", valued 'i' "ignore-initial", flag 'l' "verbose", valued 'n' "bytes", flag 's' "quiet",
      flag 's' "silent"] c.args with
  | .error e => hint e.message
  | .ok o =>
    match o.operands with
    | [] => hint ("missing operand after " ++ quoted c.name)
    | first :: rest => do
      let second := rest.headD "-"
      let complain (operand : String) (e : PathError) : Action Nat := do
        if !o.has 's' then c.complainOf operand e
        return 2
      match ← c.textOf first, ← c.textOf second with
      | .error e, _ => complain first e
      | .ok _, .error e => complain second e
      | .ok a, .ok b =>
        let skips := ((o.value? 'i').getD "0").splitOn ":"
        let skipped (i : Nat) : Nat := ((skips[i]? <|> skips.head?).bind amount?).getD 0
        let extent (text : List Char) : List Char :=
          match (o.value? 'n').bind amount? with
          | some n => text.take n
          | none => text
        let one := extent (a.toList.drop (skipped 0))
        let two := extent (b.toList.drop (skipped 1))
        let (bytes, lines, restOne, restTwo) := firstDifference 0 0 one two
        let ended (name : String) (total : List Char) (bytes lines : Nat) : Action Nat := do
          if !o.has 's' then
            let where_ := if o.has 'l' then ""
              else if total.getLast? = some '\n' then ", line " ++ toString lines
              else ", in line " ++ toString (lines + 1)
            c.complain (if total.isEmpty then "EOF on " ++ name ++ " which is empty"
              else "EOF on " ++ name ++ " after byte " ++ toString bytes ++ where_)
          return 1
        if o.has 'l' then
          let width := (toString (max one.length two.length)).length
          let rows := ((one.zip two).zipIdx.filter fun ((x, y), _) => x ≠ y).map fun ((x, y), i) =>
            let place := padLeft width (toString (i + 1)) ++ " "
            if o.has 'b' then
              place ++ padLeft 3 (octal x) ++ " " ++ padRight 4 (shownByte x) ++ " " ++ padLeft 3 (octal y) ++ " " ++
                shownByte y
            else place ++ padLeft 3 (octal x) ++ " " ++ padLeft 3 (octal y)
          .say (ofLines rows)
          if one.length < two.length then ended first one one.length 0
          else if two.length < one.length then ended second two two.length 0
          else return if rows.isEmpty then 0 else 1
        else
          match restOne, restTwo with
          | [], [] => return 0
          | [], _ => ended first one bytes lines
          | _, [] => ended second two bytes lines
          | x :: _, y :: _ =>
            let unit := if o.has 'b' then "byte " else "char "
            let shown := if o.has 'b' then
                " is " ++ padLeft 3 (octal x) ++ " " ++ shownByte x ++ " " ++ padLeft 3 (octal y) ++ " " ++ shownByte y
              else ""
            if !o.has 's' then
              .say (first ++ " " ++ second ++ " differ: " ++ unit ++ toString (bytes + 1) ++ ", line " ++
                toString (lines + 1) ++ shown ++ "\n")
            return 1

/-! ## Changes -/

/-- Lines in one file that others in another file stand for: where they begin, counted from zero, and how many. -/
structure Change where
  oldStart : Nat
  oldCount : Nat
  newStart : Nat
  newCount : Nat

/-- A row of the table of lengths: for each end of the second list, how long the longest common part is. The row below
it is for the first list without its first entry. -/
def lengthsRow (x : List Char) : List (List Char) → List Nat → List Nat
  | y :: ys, below :: more =>
    let rest := lengthsRow x ys more
    (if x = y then 1 + more.headD 0 else max below (rest.headD 0)) :: rest
  | _, _ => [0]

/-- The table of lengths, for each end of the first list. -/
def lengthsTable (ys : List (List Char)) : List (List Char) → List (List Nat)
  | [] => [List.replicate (ys.length + 1) 0]
  | x :: xs =>
    let below := lengthsTable ys xs
    lengthsRow x ys (below.headD []) :: below

/-- Which entries of two lists are not in their common part, as marks. -/
def markChanges : List (List Char) → List (List Char) → List (List Nat) → List Bool × List Bool
  | x :: xs, y :: ys, (row :: table) =>
    if x = y then
      let (old, new) := markChanges xs ys (table.map List.tail)
      (false :: old, false :: new)
    else if ((row.drop 1).headD 0) ≤ ((table.headD []).headD 0) then
      let (old, new) := markChanges xs (y :: ys) table
      (true :: old, new)
    else
      let (old, new) := markChanges (x :: xs) ys ((row :: table).map List.tail)
      (old, true :: new)
  | xs, ys, _ => (xs.map fun _ => true, ys.map fun _ => true)
termination_by xs ys => xs.length + ys.length

/-- How many entries at the front of two lists are the same. -/
def commonFront : List (List Char) → List (List Char) → Nat
  | x :: xs, y :: ys => if x = y then commonFront xs ys + 1 else 0
  | _, _ => 0

/-- The changes that marks stand for. -/
def changesOf : Nat → Nat → Nat → List Bool → List Bool → List Change
  | 0, _, _, _, _ => []
  | fuel + 1, i, j, old, new =>
    let (m, n) := ((old.takeWhile id).length, (new.takeWhile id).length)
    let rest := changesOf fuel (i + m + 1) (j + n + 1) (old.drop (m + 1)) (new.drop (n + 1))
    if m = 0 && n = 0 then if old.isEmpty && new.isEmpty then [] else rest
    else ⟨i, m, j, n⟩ :: rest

/-- A change that only takes out or puts in, moved down as far as the lines allow. -/
def slideDown (old new : Array (List Char)) (limitOld limitNew : Nat) : Nat → Change → Change
  | 0, c => c
  | fuel + 1, c =>
    let slides (lines : Array (List Char)) (start count : Nat) : Bool :=
      start + count < lines.size && lines[start]? = lines[start + count]?
    if c.oldStart + c.oldCount < limitOld && c.newStart + c.newCount < limitNew &&
        ((c.newCount = 0 && slides old c.oldStart c.oldCount) || (c.oldCount = 0 && slides new c.newStart c.newCount)) then
      slideDown old new limitOld limitNew fuel { c with oldStart := c.oldStart + 1, newStart := c.newStart + 1 }
    else c

/-- Changes moved down, none across the next one. -/
def settleChanges (old new : Array (List Char)) : List Change → List Change
  | [] => []
  | c :: rest =>
    let settled := settleChanges old new rest
    let (limitOld, limitNew) := match settled with
      | next :: _ => (next.oldStart, next.newStart)
      | [] => (old.size, new.size)
    slideDown old new limitOld limitNew old.size.succ c :: settled

/-- The changes that make one list of lines out of another. -/
def changesBetween (old new : List (List Char)) : List Change :=
  let front := commonFront old new
  let (a, b) := (old.drop front, new.drop front)
  let back := commonFront a.reverse b.reverse
  let (a, b) := (a.take (a.length - back), b.take (b.length - back))
  let (m, n) := markChanges a b (lengthsTable b a)
  settleChanges old.toArray new.toArray (changesOf (a.length + b.length + 1) front front m n)

/-! ## `diff` -/

/-- How `diff` compares and shows. -/
structure DiffStyle where
  key : List Char → List Char
  brief : Bool
  reportsSame : Bool
  recursive : Bool
  /-- How many lines are shown around changes, if they are shown together. -/
  context : Option Nat
  labels : List String
  options : List String
  newFiles : Bool

/-- A line as it is shown, with a note if it has no end. -/
def shownLine (mark : String) (line : String) : String :=
  mark ++ line ++ if line.endsWith "\n" then "" else "\n\\ No newline at end of file\n"

/-- A range of lines, from the first to the last. -/
def shownRange (start count : Nat) : String :=
  if count ≤ 1 then toString (start + count) else toString (start + 1) ++ "," ++ toString (start + count)

/-- A change as it is shown by itself. -/
def plainChange (old new : List String) (c : Change) : String :=
  let letter := if c.oldCount = 0 then "a" else if c.newCount = 0 then "d" else "c"
  let taken := (old.drop c.oldStart).take c.oldCount
  let put := (new.drop c.newStart).take c.newCount
  shownRange c.oldStart c.oldCount ++ letter ++ shownRange c.newStart c.newCount ++ "\n" ++
    String.join (taken.map (shownLine "< ")) ++ (if c.oldCount = 0 || c.newCount = 0 then "" else "---\n") ++
    String.join (put.map (shownLine "> "))

/-- Changes that are shown together because they are near to each other. -/
def groupChanges (context : Nat) : List Change → List (List Change)
  | [] => []
  | c :: rest =>
    match groupChanges context rest with
    | (next :: more) :: groups =>
      if next.oldStart - (c.oldStart + c.oldCount) ≤ 2 * context then (c :: next :: more) :: groups
      else [c] :: (next :: more) :: groups
    | _ => [[c]]

/-- Changes shown together, with lines around them. -/
def unifiedGroup (context : Nat) (old new : List String) (changes : List Change) : String :=
  match changes.head?, changes.getLast? with
  | some first, some last =>
    let start := first.oldStart - context
    let newStart := first.newStart - (first.oldStart - start)
    let stop := min old.length (last.oldStart + last.oldCount + context)
    let newStop := last.newStart + last.newCount + (stop - (last.oldStart + last.oldCount))
    let range (start count : Nat) : String :=
      if count = 0 then toString start ++ ",0"
      else if count = 1 then toString (start + 1) else toString (start + 1) ++ "," ++ toString count
    let rec body (place : Nat) : List Change → String
      | [] => String.join (((old.take stop).drop place).map (shownLine " "))
      | c :: rest =>
        String.join (((old.take c.oldStart).drop place).map (shownLine " ")) ++
          String.join (((old.drop c.oldStart).take c.oldCount).map (shownLine "-")) ++
          String.join (((new.drop c.newStart).take c.newCount).map (shownLine "+")) ++
          body (c.oldStart + c.oldCount) rest
    "@@ -" ++ range start (stop - start) ++ " +" ++ range newStart (newStop - newStart) ++ " @@\n" ++ body start changes
  | _, _ => ""

/-- The lines above changes that are shown with lines around them. -/
def unifiedTitle (style : DiffStyle) (first second : String) : String :=
  let name (i : Nat) (path : String) : String :=
    (style.labels[i]?).getD (path ++ "\t1970-01-01 00:00:00.000000000 +0000")
  "--- " ++ name 0 first ++ "\n+++ " ++ name 1 second ++ "\n"

/-- Compares two texts under their names. -/
def diffTexts (style : DiffStyle) (first second a b : String) : Action Nat := do
  let same : Action Nat := do
    if style.reportsSame then .say ("Files " ++ first ++ " and " ++ second ++ " are identical\n")
    return 0
  if a = b then same
  else if a.toList.contains '\x00' || b.toList.contains '\x00' then
    .say ((if style.brief then "Files " else "Binary files ") ++ first ++ " and " ++ second ++ " differ\n")
    return 1
  else
    let (old, new) := (endedLines a, endedLines b)
    let changes := changesBetween (old.map fun l => style.key l.toList) (new.map fun l => style.key l.toList)
    if changes.isEmpty then same
    else if style.brief then
      .say ("Files " ++ first ++ " and " ++ second ++ " differ\n")
      return 1
    else
      match style.context with
      | none => .say (String.join (changes.map (plainChange old new)))
      | some n =>
        .say (unifiedTitle style first second ++
          String.join ((groupChanges n changes).map (unifiedGroup n old new)))
      return 1

/-- The names in a directory, in order. -/
def sortedNames (disk : Disk) (path : String) : List String :=
  match disk.entry? path with
  | .ok e => (e.children.map fun child => Bytes.ofText child.1).mergeSort (· ≤ ·)
  | .error _ => []

/-- Compares the entries of two directories, name by name. -/
def diffDirs (c : Call) (style : DiffStyle) : Nat → String → String → Action Nat
  | 0, _, _ => return 2
  | fuel + 1, first, second => do
    let disk ← .disk
    let (a, b) := (sortedNames disk (c.path first), sortedNames disk (c.path second))
    let names := ((a ++ b).mergeSort (· ≤ ·)).eraseDups
    let join (d name : String) : String := if d.endsWith "/" then d ++ name else d ++ "/" ++ name
    names.foldlM (fun status name => do
      let (x, y) := (join first name, join second name)
      let found ← if !b.contains name then do
          .say ("Only in " ++ first ++ ": " ++ name ++ "\n")
          pure 1
        else if !a.contains name then do
          .say ("Only in " ++ second ++ ": " ++ name ++ "\n")
          pure 1
        else
          match disk.entry? (c.path x), disk.entry? (c.path y) with
          | .ok (.dir _), .ok (.dir _) =>
            if style.recursive then diffDirs c style fuel x y
            else do
              .say ("Common subdirectories: " ++ x ++ " and " ++ y ++ "\n")
              pure 0
          | .ok (.file s _), .ok (.file t _) => do
            let (s, t) := (Bytes.ofList s, Bytes.ofList t)
            let title := "diff" ++ String.join (style.options.map (" " ++ ·)) ++ " " ++ x ++ " " ++ y ++ "\n"
            if s ≠ t && !style.brief then .say title
            diffTexts style x y s t
          | .ok e, .ok f => do
            let kind (e : Entry) : String :=
              match e with
              | .dir _ => "directory"
              | .link _ => "symbolic link"
              | .file s _ => if s.isEmpty then "regular empty file" else "regular file"
            .say ("File " ++ x ++ " is a " ++ kind e ++ " while file " ++ y ++ " is a " ++ kind f ++ "\n")
            pure 1
          | .error e, _ => do
            c.complainOf x e
            pure 2
          | _, .error e => do
            c.complainOf y e
            pure 2
      return max status found) 0

/-- `diff`. -/
def diffProgram : Tool := fun c =>
  let hint (message : String) : Action Nat := do
    c.complain message
    c.complain ("Try '" ++ c.name ++ " --help' for more information.")
    return 2
  match readOptions
    [flag 'a' "text", flag 'b' "ignore-space-change", flag 'B' "ignore-blank-lines", flag 'd' "minimal",
      flag 'i' "ignore-case", flag 'q' "brief", flag 'r' "recursive", flag 's' "report-identical-files",
      flag 'N' "new-file", flag 'u' "", valued 'U' "unified", flag 'w' "ignore-all-space",
      flag 'Z' "ignore-trailing-space", flag 'E' "ignore-tab-expansion", valued 'L' "label",
      flag '\x01' "normal", flag '\x02' "strip-trailing-cr", ⟨'\x03', "color", true, true⟩] c.args with
  | .error e => hint e.message
  | .ok o =>
    match o.operands with
    | [] => hint ("missing operand after " ++ quoted c.name)
    | [one] => hint ("missing operand after " ++ quoted one)
    | _ :: _ :: extra :: _ => hint ("extra operand " ++ quoted extra)
    | [first, second] => do
      let squeeze (line : List Char) : List Char :=
        let words := (line.splitOnP isSpace).zipIdx.filter fun (w, i) => !w.isEmpty || i = 0
        [' '].intercalate (words.map (·.1))
      let key (line : List Char) : List Char :=
        let line := if o.has 'w' then line.filter (fun c => !isSpace c) else if o.has 'b' then squeeze line
          else if o.has 'Z' then (line.reverse.dropWhile isSpace).reverse else line
        if o.has 'i' then line.map Char.toLower else line
      let context := if o.has 'U' then (o.value? 'U').bind wholeNatural? else if o.has 'u' then some 3 else none
      let style : DiffStyle := ⟨key, o.has 'q', o.has 's', o.has 'r', context, o.values 'L',
        c.args.filter fun a => a.startsWith "-" && a ≠ "-", o.has 'N'⟩
      let disk ← .disk
      let isDir (name : String) : Bool := name ≠ "-" && disk.holdsDirectory (c.path name)
      if isDir first && isDir second then diffDirs c style 64 first second
      else
        let first' := if isDir first then first ++ "/" ++ baseName second else first
        let second' := if isDir second then second ++ "/" ++ baseName first else second
        let read (name : String) : Action (Except PathError String) := do
          match ← c.textOf name with
          | .error .notFound => return if style.newFiles then .ok "" else .error .notFound
          | r => return r
        match ← read first', ← read second' with
        | .ok a, .ok b => diffTexts style first' second' a b
        | a, b => do
          match a with
          | .error e => c.complainOf first' e
          | .ok _ => pure ()
          match b with
          | .error e => c.complainOf second' e
          | .ok _ => pure ()
          return 2

end GateRunner
