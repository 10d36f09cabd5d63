import GateRunner.Shell.Wildcard
import GateRunner.Tool.Copy

/-!
# Looking at directories and paths

`ls` and `stat` tell what there is, `readlink` and `realpath` where paths lead, `basename` and `dirname` take paths
apart, and `pwd` tells where one is.
-/

namespace GateRunner

/-! ## `ls` -/

/-- How a listing is made. -/
structure ListStyle where
  all : Bool
  almostAll : Bool
  /-- Whether directories are shown themselves, and not what is in them. -/
  itself : Bool
  marks : Bool
  marksDirs : Bool
  recursive : Bool
  reversed : Bool
  long : Bool
  byTime : Bool
  bySize : Bool
  byVersion : Bool
  unsorted : Bool
  byEnding : Bool
  dirsFirst : Bool
  quotes : Bool
  escapes : Bool
  commas : Bool
  follows : Bool
  /-- Whether the number of each entry is shown. -/
  numbers : Bool
  /-- Whether the size in blocks is shown. -/
  blocks : Bool
  /-- Whether names stand in columns, and then whether the order is that of the columns. -/
  columns : Option Bool
  width : Nat
  /-- Patterns of names that are not shown. -/
  ignored : List String

/-- An entry in a listing. -/
structure Listed where
  name : String
  entry : Entry
  /-- What a link leads to. -/
  target : Option Entry

/-- The size of an entry. -/
def Entry.size : Entry → Nat
  | .file bytes _ => bytes.length
  | .dir _ => 4096
  | .link target => target.utf8ByteSize

/-- The mark after a name that tells what kind of entry it is. -/
def markOf : Entry → String
  | .dir _ => "/"
  | .link _ => "@"
  | .file _ status => if status.isExecutable then "*" else ""

/-- The letters of an entry: its kind and its permissions. -/
def entryLetters (e : Entry) : String :=
  (match e with
    | .dir _ => "d"
    | .link _ => "l"
    | .file _ _ => "-") ++ modeLetters e.mode

/-- The names of a directory in the order in which they are shown. -/
def ListStyle.sort (o : ListStyle) (entries : List Listed) : List Listed :=
  let time (l : Listed) : Nat := l.entry.stamp
  let before (a b : Listed) : Bool :=
    let byName := a.name ≤ b.name
    if o.byVersion then
      (compareNames a.name b.name).isLE
    else if o.byTime then time b < time a || (time a = time b && byName)
    else if o.bySize then b.entry.size < a.entry.size || (a.entry.size = b.entry.size && byName)
    else if o.byEnding then
      let (x, y) := (endingOf a.name, endingOf b.name)
      x < y || (x = y && byName)
    else byName
  let sorted := if o.unsorted then entries else entries.mergeSort before
  let sorted := if o.reversed then sorted.reverse else sorted
  if o.dirsFirst then
    let isDir (l : Listed) : Bool := l.entry.isDir || l.target.any Entry.isDir
    sorted.filter isDir ++ sorted.filter fun l => !isDir l
  else sorted
where
  /-- What follows the last dot of a name, with the dot. -/
  endingOf (name : String) : String :=
    let after := name.toList.reverse.takeWhile (· ≠ '.')
    if after.length = name.length then "" else "." ++ String.ofList after.reverse
  /-- Which of two names comes later if numbers in them count. -/
  compareNames (a b : String) : Ordering :=
    let key (name : String) : List Nat := name.toList.map Char.toNat
    let digits (t : List Nat) : List Nat := t.takeWhile fun n => 48 ≤ n && n < 58
    let value (t : List Nat) : Nat := t.foldl (fun v n => v * 10 + (n - 48)) 0
    let rec go : Nat → List Nat → List Nat → Ordering
      | 0, _, _ => .eq
      | _, [], [] => .eq
      | _, [], _ => .lt
      | _, _, [] => .gt
      | fuel + 1, x :: xs, y :: ys =>
        let (m, n) := (digits (x :: xs), digits (y :: ys))
        if !m.isEmpty && !n.isEmpty then
          match compare (value m) (value n) with
          | .eq => go fuel ((x :: xs).drop m.length) ((y :: ys).drop n.length)
          | o => o
        else
          match compare x y with
          | .eq => go fuel xs ys
          | o => o
    go (a.length + b.length + 1) (key a) (key b)

/-- One line of a long listing, with the widths of the columns. -/
def longRow (links size : Nat) (o : ListStyle) (l : Listed) : String :=
  let count := if l.entry.isDir then 2 + (l.entry.children.filter (·.2.isDir)).length else 1
  let arrow := match l.entry with
    | .link target => " -> " ++ Bytes.ofText target
    | _ => ""
  entryLetters l.entry ++ " " ++ padLeft links (toString count) ++ " root root " ++
    padLeft size (toString l.entry.size) ++ " Jan  1 00:00 " ++ shown o l ++ arrow
where
  /-- The name with its mark. -/
  shown (o : ListStyle) (l : Listed) : String :=
    l.name ++ if o.marks && !l.entry.isLink then markOf l.entry else if o.marksDirs && l.entry.isDir then "/" else ""

/-- How many blocks of a kibibyte an entry takes up. -/
def Entry.blocks : Entry → Nat
  | .link _ => 0
  | e => (e.size + 4095) / 4096 * 4

/-- A name with what is special in it behind backslashes. -/
def escapedName (name : String) : String :=
  String.join (name.toList.map fun c =>
    if c = ' ' then "\\ " else if c = '\\' then "\\\\" else if prints c then String.singleton c else shownEscape c)

/-- The number of an entry; nothing is known of it but that each has its own. -/
def entryNumber (l : Listed) : Nat := 1000000 + l.name.length * 4096 + l.entry.stamp

/-- A name in a plain listing. -/
def shortRow (o : ListStyle) (l : Listed) : String :=
  let name := if o.quotes then "\"" ++ l.name ++ "\"" else if o.escapes then escapedName l.name else l.name
  (if o.numbers then toString (entryNumber l) ++ " " else "") ++
    (if o.blocks then toString l.entry.blocks ++ " " else "") ++ name ++
    if o.marks then markOf l.entry else if o.marksDirs && l.entry.isDir then "/" else ""

/-! ### Columns -/

/-- The least width of a column. -/
def columnLeast : Nat := 3

/-- The widths of so many columns for texts of some lengths, and whether they fit into a line. -/
def columnWidths (down : Bool) (line count : Nat) (lengths : List Nat) : List Nat × Bool :=
  let rows := (lengths.length + count - 1) / count
  let columnOf (i : Nat) : Nat := if down then i / rows else i % count
  let widths := (List.range count).map fun column =>
    (lengths.zipIdx.filter fun (_, i) => columnOf i = column).foldl
      (fun widest (n, _) => max widest (n + if column + 1 = count then 0 else 2)) columnLeast
  (widths, widths.foldl (· + ·) 0 < line)

/-- White space from one place in a line to another, with tabs where they reach. -/
def whiteSpace : Nat → Nat → Nat → String
  | 0, _, _ => ""
  | fuel + 1, from_, to_ =>
    if to_ ≤ from_ then ""
    else if (from_ + 1) / 8 < to_ / 8 then "\t" ++ whiteSpace fuel (from_ + 8 - from_ % 8) to_
    else " " ++ whiteSpace fuel (from_ + 1) to_

/-- The texts of one line, each with the width of its column. -/
def columnLine : Nat → List (String × Nat) → String
  | _, [] => "\n"
  | _, [(text, _)] => text ++ "\n"
  | at_, (text, width) :: rest =>
    text ++ whiteSpace (width + 1) (at_ + text.length) (at_ + width) ++ columnLine (at_ + width) rest

/-- Texts in as many columns as fit into a line. -/
def inColumns (down : Bool) (line : Nat) (texts : List String) : String :=
  let lengths := texts.map String.length
  let most := min texts.length (max 1 ((line + 2) / 3))
  let counts := (List.range most).reverse.map (· + 1)
  let count := (counts.find? fun n => (columnWidths down line n lengths).2).getD 1
  let (widths, _) := columnWidths down line count lengths
  let rows := (texts.length + count - 1) / count
  String.join ((List.range rows).map fun row =>
    columnLine 0 (widths.zipIdx.filterMap fun (width, column) =>
      (texts[if down then column * rows + row else row * count + column]?).map (·, width)))

/-- A listing. -/
def listingText (o : ListStyle) (entries : List Listed) : String :=
  let sorted := o.sort entries
  if o.long then
    let widest (f : Listed → Nat) : Nat := (sorted.map fun l => (toString (f l)).length).foldl max 1
    let count (l : Listed) : Nat := if l.entry.isDir then 2 + (l.entry.children.filter (·.2.isDir)).length else 1
    ofLines (sorted.map (longRow (widest count) (widest (·.entry.size)) o))
  else if o.commas then (if sorted.isEmpty then "" else ", ".intercalate (sorted.map (shortRow o)) ++ "\n")
  else if sorted.isEmpty then ""
  else if let some down := o.columns then inColumns down o.width (sorted.map (shortRow o))
  else ofLines (sorted.map (shortRow o))

/-- How many blocks of a kibibyte files take up. -/
def blocksOf (entries : List Listed) : Nat :=
  (entries.map (·.entry.blocks)).foldl (· + ·) 0

/-- The listing of a directory, with those of the directories below it if that is wished. -/
def listDirectory (c : Call) (o : ListStyle) (titled : Bool) : Nat → String → Entry → Action Unit
  | 0, _, _ => return
  | fuel + 1, shown, e => do
    let disk ← .disk
    let hidden (name : String) : Bool := name.startsWith "." && !(o.all || o.almostAll) ||
      o.ignored.any fun pattern => Shell.covers (Shell.unquoted pattern) (Bytes.ofText name)
    let join (name : String) : String := (if shown.endsWith "/" then shown else shown ++ "/") ++ Bytes.ofText name
    let listed (name : String) (e : Entry) : Listed :=
      ⟨Bytes.ofText name, e, (disk.entry? (c.path (join name))).toOption⟩
    let children := (e.children.filter fun child => !hidden child.1).map fun (name, e) => listed name e
    let dots := if o.all then
        [(⟨".", e, none⟩ : Listed), ⟨"..", ((disk.entry? (c.path (shown ++ "/.."))).toOption).getD e, none⟩]
      else []
    let entries := dots ++ children
    if titled then .say (shown ++ ":\n")
    if o.long || o.blocks then .say ("total " ++ toString (blocksOf entries) ++ "\n")
    .say (listingText o entries)
    if o.recursive then
      (o.sort children).forM fun l => do
        if l.entry.isDir then
          .say "\n"
          listDirectory c o true fuel (join (Bytes.toText l.name)) l.entry

/-- `ls`. -/
def lsProgram : Tool :=
  withOptions
    [flag 'a' "all", flag 'A' "almost-all", flag 'd' "directory", flag 'F' "", ⟨'F', "classify", false, true⟩,
      flag 'p' "", flag 'R' "recursive", flag 'r' "reverse", flag '1' "", flag 'l' "", flag 'g' "", flag 'o' "",
      flag 'n' "numeric-uid-gid", flag 't' "", flag 'S' "", flag 'v' "", flag 'U' "", flag 'f' "", flag 'C' "",
      flag 'x' "", flag 'm' "", flag 'Q' "quote-name", flag 'h' "human-readable", flag 'i' "inode", flag 's' "size",
      flag 'L' "dereference", flag 'H' "", flag 'G' "no-group", flag 'k' "", flag 'N' "literal", flag 'q' "",
      flag 'b' "escape", flag 'B' "ignore-backups", flag 'c' "", flag 'u' "", flag 'X' "", flag 'Z' "",
      valued 'I' "ignore", valued 'w' "width", valued 'T' "tabsize", ⟨'\x01', "color", true, true⟩,
      valued '\x02' "time-style", flag '\x03' "full-time", valued '\x04' "sort", flag '\x05' "group-directories-first",
      ⟨'\x06', "indicator-style", true, true⟩, valued '\x07' "format", valued '\x08' "hide"] 2
    fun c o => do
      let style : ListStyle :=
        { all := o.last? ['a', 'A', 'f'] = some 'a' || o.has 'f', almostAll := o.last? ['a', 'A'] = some 'A',
          itself := o.has 'd', marks := o.has 'F', marksDirs := o.has 'p', recursive := o.has 'R',
          reversed := o.has 'r',
          long := (o.last? ['l', '1', 'C', 'm', 'x', 'g', 'o', 'n']).any (fun l => l ∈ ['l', 'g', 'o', 'n']) ||
            (o.has 'l' && o.has '1'),
          byTime := o.last? ['t', 'S', 'v', 'U'] = some 't', bySize := o.last? ['t', 'S', 'v', 'U'] = some 'S',
          byVersion := o.last? ['t', 'S', 'v', 'U'] = some 'v',
          unsorted := o.last? ['t', 'S', 'v', 'U'] = some 'U' || o.has 'f', byEnding := o.has 'X',
          dirsFirst := o.has '\x05', quotes := o.has 'Q', escapes := o.has 'b',
          commas := o.last? ['1', 'C', 'x', 'm', 'l'] = some 'm', follows := o.has 'L', numbers := o.has 'i',
          blocks := o.has 's',
          columns := match o.last? ['1', 'C', 'x', 'm', 'l'] with
            | some 'C' => some true
            | some 'x' => some false
            | _ => none,
          width := ((o.value? 'w').bind wholeNatural?).getD 80, ignored := o.values 'I' ++ o.values '\x08' }
      let operands := if o.operands.isEmpty then ["."] else o.operands
      let disk ← .disk
      let find (name : String) : Except PathError Entry :=
        if name = "" then .error .notFound
        else
          match disk.entry? (c.path name) with
          | .ok (.dir es) =>
            match if style.itself || style.long || style.marks then disk.entryItself? (c.path name) else .ok (.dir es) with
            | .ok (.link t) => if name.endsWith "/" then .ok (.dir es) else .ok (.link t)
            | _ => .ok (.dir es)
          | r => if style.follows then r else disk.entryItself? (c.path name)
      let missing := operands.filterMap fun name =>
        match find name with
        | .error e => some ("cannot access " ++ shellQuoted name ++ ": " ++ e.text)
        | .ok _ => none
      missing.forM c.complain
      let found : List Listed := operands.filterMap fun name => ((find name).toOption).map fun e => ⟨name, e, none⟩
      let (dirs, files) := found.partition fun l => l.entry.isDir && !style.itself
      .say (listingText style files)
      let titled := 1 < operands.length || style.recursive
      let rec each (begun : Bool) : List Listed → Action Unit
        | [] => return
        | l :: rest => do
          if begun then .say "\n"
          listDirectory c style titled 100 l.name l.entry
          each true rest
      each (!files.isEmpty) (style.sort dirs)
      return if missing.isEmpty then 0 else 2

/-! ## `stat` -/

/-- What a letter in a format stands for. -/
def statField (name : String) (e : Entry) (letter : Char) : String :=
  match letter with
  | 'n' => name
  | 'N' => match e with
    | .link target => shellQuoted name ++ " -> " ++ shellQuoted (Bytes.ofText target)
    | _ => shellQuoted name
  | 's' => toString e.size
  | 'a' => String.ofList (Nat.toDigits 8 e.mode)
  | 'A' => entryLetters e
  | 'F' => kindText e
  | 'U' | 'G' => "root"
  | 'u' | 'g' => "0"
  | 'h' => if e.isDir then toString (2 + (e.children.filter (·.2.isDir)).length) else "1"
  | 'f' =>
    let kind := match e with
      | .dir _ => 0o40000
      | .link _ => 0o120000
      | .file _ _ => 0o100000
    String.ofList (Nat.toDigits 16 (kind + e.mode))
  | 'b' => toString ((e.size + 4095) / 4096 * 8)
  | 'B' => "512"
  | 'o' => "4096"
  | 'Y' | 'X' | 'Z' => toString (1700000000 + e.stamp)
  | '%' => "%"
  | _ => "?"

/-- A format written out; escapes are carried out if that is wished. -/
def statText (name : String) (e : Entry) (escapes : Bool) : List Char → String
  | '%' :: letter :: rest => statField name e letter ++ statText name e escapes rest
  | '\\' :: 'n' :: rest => (if escapes then "\n" else "\\n") ++ statText name e escapes rest
  | '\\' :: 't' :: rest => (if escapes then "\t" else "\\t") ++ statText name e escapes rest
  | c :: rest => String.singleton c ++ statText name e escapes rest
  | [] => ""

/-- `stat`. -/
def statProgram : Tool :=
  withOptions
    [valued 'c' "format", valued '\x01' "printf", flag 'L' "dereference", flag 't' "terse", flag 'f' "file-system"] 1
    fun c o => do
      if o.operands.isEmpty then c.refuseWithHint "missing operand" 1
      else
        forEachOperand o.operands fun name => do
          let disk ← .disk
          match if name = "" then .error .notFound
            else if o.has 'L' then disk.entry? (c.path name) else disk.entryItself? (c.path name) with
          | .error e =>
            c.complain ("cannot statx " ++ shellQuoted name ++ ": " ++ e.text)
            return false
          | .ok e =>
            match o.value? '\x01', o.value? 'c' with
            | some format, _ => .say (statText name e true format.toList)
            | none, some format => .say (statText name e false format.toList ++ "\n")
            | none, none => .say ("  File: " ++ name ++ "\n")
            return true

/-! ## Paths -/

/-- The way to a place as a text of bytes. -/
def placeText (place : List String) : String := Bytes.ofText ("/" ++ "/".intercalate place)

/-- A path from the top with its dots taken away, whatever there is on the disk. -/
def withoutDots (path : String) : String :=
  placeText ((splitPath path).foldl (fun way name =>
    if name = "" || name = "." then way else if name = ".." then way.tail else name :: way) []).reverse

/-- Where a path leads, as a path from the top. The last name, or all of them, may be missing if that is allowed. -/
def fullPath (disk : Disk) (lastMayMiss allMayMiss : Bool) (path : String) : Except PathError String :=
  match disk.locate path with
  | .ok (.taken place _) => .ok (placeText place)
  | .ok (.vacant place) => if lastMayMiss || allMayMiss then .ok (placeText place) else .error .notFound
  | .error e =>
    if allMayMiss then .ok (withoutDots path) else .error e

/-- `readlink`. -/
def readlinkProgram : Tool :=
  withOptions
    [flag 'f' "canonicalize", flag 'e' "canonicalize-existing", flag 'm' "canonicalize-missing", flag 'n' "no-newline",
      flag 'q' "quiet", flag 's' "silent", flag 'v' "verbose", flag 'z' "zero"] 1
    fun c o => do
      if o.operands.isEmpty then c.refuseWithHint "missing operand" 1
      else
        forEachOperand o.operands fun name => do
          let disk ← .disk
          let path := c.path name
          let answer : Except PathError String :=
            match o.last? ['f', 'e', 'm'] with
            | some mode => fullPath disk (mode ≠ 'e') (mode = 'm') path
            | none =>
              match disk.entryItself? path with
              | .ok (.link target) => .ok (Bytes.ofText target)
              | .ok _ => .error .invalid
              | .error e => .error e
          match answer with
          | .ok text =>
            .say (text ++ if o.has 'n' && o.operands.length = 1 then "" else if o.has 'z' then "\x00" else "\n")
            return true
          | .error e =>
            if o.has 'v' then c.complainOf name e
            return false

/-- `realpath`. -/
def realpathProgram : Tool :=
  withOptions
    [flag 'e' "canonicalize-existing", flag 'm' "canonicalize-missing", flag 'q' "quiet", flag 's' "strip",
      flag 's' "no-symlinks", flag 'z' "zero", flag 'L' "logical", flag 'P' "physical", valued '\x01' "relative-to",
      valued '\x02' "relative-base"] 1
    fun c o => do
      if o.operands.isEmpty then c.refuseWithHint "missing operand" 1
      else
        forEachOperand o.operands fun name => do
          let disk ← .disk
          let way := if o.has 's' then .ok (withoutDots (c.path name))
            else fullPath disk (!o.has 'e') (o.has 'm') (c.path name)
          match if name = "" then .error .notFound else way with
          | .ok text =>
            let shown := match (o.value? '\x01').map fun base => fullPath disk true true (c.path base) with
              | some (.ok base) =>
                let names (path : String) : List String := (path.splitOn "/").filter (· ≠ "")
                "/".intercalate (wayBetween (names base) (names text))
              | _ => text
            .say (shown ++ "\n")
            return true
          | .error e =>
            if !o.has 'q' then c.complainOf name e
            return false

/-- The last name of a path. -/
def lastName (path : String) : String :=
  let bare := withoutSlashes path
  if bare = "/" then "/" else (bare.splitOn "/").getLast?.getD ""

/-- `basename`. -/
def basenameProgram : Tool := fun c =>
  match readOptionsFrom [flag 'a' "multiple", valued 's' "suffix", flag 'z' "zero"] true none c.args with
  | .error e => c.refuseWithHint e.message 1
  | .ok o => do
    let cut (suffix name : String) : String :=
      let name := lastName name
      if suffix ≠ "" && name.endsWith suffix && suffix.length < name.length then
        String.ofList (name.toList.take (name.length - suffix.length))
      else name
    let ending := if o.has 'z' then "\x00" else "\n"
    let several := o.has 'a' || o.has 's'
    match o.operands with
    | [] => c.refuseWithHint "missing operand" 1
    | operands =>
      if several then
        .say (String.join (operands.map fun name => cut ((o.value? 's').getD "") name ++ ending))
        return 0
      else
        match operands with
        | name :: suffix =>
          match suffix.drop 1 with
          | extra :: _ => c.refuseWithHint ("extra operand " ++ quoted extra) 1
          | [] =>
            .say (cut (suffix.headD "") name ++ ending)
            return 0
        | [] => return 1

/-- The path of the directory that something is in. -/
def directoryName (path : String) : String :=
  let bare := withoutSlashes path
  if bare = "/" then "/"
  else
    match (bare.splitOn "/").dropLast with
    | [] => "."
    | names =>
      let way := withoutSlashes ("/".intercalate names)
      if way = "" then "/" else way

/-- `dirname`. -/
def dirnameProgram : Tool := withOptions [flag 'z' "zero"] 1 fun c o => do
  if o.operands.isEmpty then c.refuseWithHint "missing operand" 1
  else
    .say (String.join (o.operands.map fun name => directoryName name ++ if o.has 'z' then "\x00" else "\n"))
    return 0

/-- `pwd`. -/
def pwdProgram : Tool := withOptions [flag 'L' "logical", flag 'P' "physical"] 1 fun c o => do
  let disk ← .disk
  let logical := (c.environment.lookup "PWD").filter fun way =>
    (disk.placeOf? (Bytes.toText way)).toOption = (disk.placeOf? c.directory).toOption && way.startsWith "/"
  if !o.operands.isEmpty then c.complain "ignoring non-option arguments"
  .say (((if o.last? ['L', 'P'] = some 'L' then logical else none).getD (Bytes.ofText c.directory)) ++ "\n")
  return 0

end GateRunner
