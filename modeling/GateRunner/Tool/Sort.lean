import GateRunner.Number.Magnitude
import GateRunner.Tool.Count

/-!
# Sorting

`sort` puts lines in order by keys, which are parts of a line with a way to compare them. Lines whose keys are equal are
compared as a whole, if that is not to be left out. `comm` compares two files that are in order.
-/

namespace GateRunner

/-! ## Keys -/

/-- How keys are compared. -/
structure KeyOrder where
  /-- The letters of the options that have been given. -/
  letters : List Char

namespace KeyOrder

/-- Whether an option is given. -/
def has (o : KeyOrder) (letter : Char) : Bool := o.letters.contains letter

/-- The rank of the letter after a number of a size for people. -/
def unitRank (text : List Char) : Nat :=
  match text with
  | c :: _ => if c = 'k' then 1 else (("KMGTPEZYRQ".toList.findIdx? (· = c)).map (· + 1)).getD 0
  | [] => 0

/-- The number of a month by the first three letters of its name. -/
def monthRank (text : List Char) : Nat :=
  let months := ["JAN", "FEB", "MAR", "APR", "MAY", "JUN", "JUL", "AUG", "SEP", "OCT", "NOV", "DEC"]
  ((months.findIdx? (· = String.ofList ((text.take 3).map Char.toUpper))).map (· + 1)).getD 0

/-- A number with an exponent at the front of a text, for comparing; what is no number comes first. -/
def generalNumber (text : List Char) : Option Magnitude :=
  let (sign, rest) := match text with
    | '+' :: rest => (false, rest)
    | '-' :: rest => (true, rest)
    | _ => (false, text)
  let begins := match rest with
    | '.' :: c :: _ => c.isDigit
    | c :: _ => c.isDigit
    | [] => false
  if !begins then none
  else
    let (m, after) := Magnitude.ofFront rest
    let exponent : Int := match after with
      | e :: '-' :: digits => if e = 'e' || e = 'E' then -(digitsValue 10 ((digits.take 4).takeWhile Char.isDigit)) else 0
      | e :: '+' :: digits | e :: digits =>
        if e = 'e' || e = 'E' then digitsValue 10 ((digits.take 4).takeWhile Char.isDigit) else 0
      | [] => 0
    let m := { m with negative := sign }
    if exponent < 0 then some { m with places := m.places + exponent.natAbs }
    else some { m with digits := m.digits * Nat.pow 10 exponent.natAbs }

/-- The characters of a key that count. -/
def counted (o : KeyOrder) (text : List Char) : List Char :=
  let text := if o.has 'd' then text.filter (fun c => c.isAlphanum || c = ' ' || c = '\t')
    else if o.has 'i' then text.filter prints else text
  if o.has 'f' then text.map Char.toUpper else text

/-- Which of two keys comes later, without regard to the order being reversed. -/
def compare (o : KeyOrder) (a b : List Char) : Ordering :=
  let bare (t : List Char) : List Char := t.dropWhile (fun c => c = ' ' || c = '\t')
  if o.has 'n' then (Magnitude.ofFront (bare a)).1.compare (Magnitude.ofFront (bare b)).1
  else if o.has 'h' then
    let (m, restM) := Magnitude.ofFront (bare a)
    let (n, restN) := Magnitude.ofFront (bare b)
    let rank (m : Magnitude) (rest : List Char) : Int :=
      if m.digits = 0 then 0 else if m.negative then -(unitRank rest : Int) - 1 else unitRank rest + 1
    match Ord.compare (rank m restM) (rank n restN) with
    | .eq => m.compare n
    | o => o
  else if o.has 'g' then
    match generalNumber (a.dropWhile isSpace), generalNumber (b.dropWhile isSpace) with
    | none, none => .eq
    | none, some _ => .lt
    | some _, none => .gt
    | some m, some n => m.compare n
  else if o.has 'M' then Ord.compare (monthRank (bare a)) (monthRank (bare b))
  else if o.has 'V' then compareVersions (a.length + b.length + 1) a b
  else Ord.compare (o.counted a) (o.counted b)

end KeyOrder

/-- A key: where it begins and where it ends in a line, and how it is compared. -/
structure SortKey where
  firstField : Nat
  firstChar : Nat
  /-- The last field counted from one, and the last character in it, zero for all of them. -/
  last : Option (Nat × Nat)
  blanksAtStart : Bool
  blanksAtEnd : Bool
  order : KeyOrder

namespace SortKey

/-- The text after so many fields. The separator after the last one is left if that is wished. -/
def skip (separator : Option Char) (keepLast : Bool) : Nat → List Char → List Char
  | 0, text => text
  | n + 1, text =>
    let isBlank (c : Char) : Bool := c = ' ' || c = '\t'
    match separator with
    | none => skip separator keepLast n ((text.dropWhile isBlank).dropWhile (fun c => !isBlank c))
    | some s =>
      match text.dropWhile (· ≠ s) with
      | [] => []
      | c :: rest => skip separator keepLast n (if n = 0 && keepLast then c :: rest else rest)

/-- The key of a line. -/
def of (k : SortKey) (separator : Option Char) (line : List Char) : List Char :=
  let bare (t : List Char) : List Char := t.dropWhile (fun c => c = ' ' || c = '\t')
  let start := skip separator false k.firstField line
  let start := (if k.blanksAtStart then bare start else start).drop k.firstChar
  match k.last with
  | none => start
  | some (field, char) =>
    let rest :=
      if char = 0 then skip separator true field line
      else
        let rest := skip separator false (field - 1) line
        (if k.blanksAtEnd then bare rest else rest).drop char
    start.take (start.length - rest.length)

/-- A key that is the whole line. -/
def whole (order : KeyOrder) : SortKey := ⟨0, 0, none, order.has 'b', order.has 'b', order⟩

end SortKey

/-- What is wrong with the description of a key. -/
inductive KeyFault
  | fieldZero (text : String)
  | offsetZero (text : String)
  | badNumber (where_ rest : String)
  | stray (text : String)

/-- The wording of a fault. -/
def KeyFault.message : KeyFault → String
  | .fieldZero text => "field number is zero: invalid field specification " ++ quoted text
  | .offsetZero text => "character offset is zero: invalid field specification " ++ quoted text
  | .badNumber where_ rest => "invalid number " ++ where_ ++ ": invalid count at start of " ++ quoted rest
  | .stray text => "stray character in field spec: invalid field specification " ++ quoted text

/-- The letters that say how keys are compared. -/
def orderLetters : List Char := ['b', 'd', 'f', 'g', 'h', 'i', 'M', 'n', 'R', 'r', 'V']

/-- A number at the front of a description, with what follows it. -/
def keyNumber (where_ : String) (text : List Char) : Except KeyFault (Nat × List Char) :=
  let digits := text.takeWhile Char.isDigit
  if digits.isEmpty then .error (.badNumber where_ (String.ofList text))
  else .ok (digitsValue 10 digits, text.drop digits.length)

/-- A key by its description. -/
def SortKey.parse (text : String) : Except KeyFault SortKey := do
  let (field, rest) ← keyNumber "at field start" text.toList
  if field = 0 then throw (.fieldZero text)
  let (char, rest) ← match rest with
    | '.' :: rest => keyNumber "after '.'" rest
    | _ => pure (1, rest)
  if char = 0 then throw (.offsetZero text)
  let first := rest.takeWhile orderLetters.contains
  let rest := rest.drop first.length
  let (last, second, rest) ← match rest with
    | ',' :: rest =>
      let (field, rest) ← keyNumber "after ','" rest
      if field = 0 then throw (.fieldZero text)
      let (char, rest) ← match rest with
        | '.' :: rest => keyNumber "after '.'" rest
        | _ => pure (0, rest)
      let second := rest.takeWhile orderLetters.contains
      pure (some (field, char), second, rest.drop second.length)
    | _ => pure (none, [], rest)
  if !rest.isEmpty then throw (.stray text)
  return ⟨field - 1, char - 1, last, first.contains 'b', second.contains 'b', ⟨first ++ second⟩⟩

/-! ## Sorting -/

/-- How lines are sorted. -/
structure Sorting where
  keys : List SortKey
  separator : Option Char
  reversed : Bool
  unique : Bool
  stable : Bool

namespace Sorting

/-- Which of two lines comes later by the keys alone. -/
def compareKeys (s : Sorting) (a b : List Char) : List SortKey → Ordering
  | [] => .eq
  | k :: rest =>
    match k.order.compare (k.of s.separator a) (k.of s.separator b) with
    | .eq => s.compareKeys a b rest
    | o => if k.order.has 'r' then o.swap else o

/-- Which of two lines comes later. -/
def compare (s : Sorting) (a b : List Char) : Ordering :=
  match s.compareKeys a b s.keys with
  | .eq =>
    if s.unique || s.stable then .eq
    else
      let o := Ord.compare a b
      if s.reversed then o.swap else o
  | o => o

/-- Lines without those that equal the one before. -/
def distinct (s : Sorting) : List (List Char) → List (List Char)
  | a :: b :: rest =>
    if s.compare a b = .eq then s.distinct (a :: rest) else a :: s.distinct (b :: rest)
  | lines => lines
termination_by lines => lines.length

/-- The lines in order. -/
def sort (s : Sorting) (lines : List (List Char)) : List (List Char) :=
  let sorted := lines.mergeSort fun a b => (s.compare a b).isLE
  if s.unique then s.distinct sorted else sorted

/-- Two lists of lines merged. -/
def merge (s : Sorting) (a b : List (List Char)) : List (List Char) := List.merge a b fun a b => (s.compare a b).isLE

/-- The first line that is not in order, with its number. -/
def disorder? (s : Sorting) : Nat → List (List Char) → Option (Nat × List Char)
  | n, a :: b :: rest =>
    match s.compare a b with
    | .gt => some (n + 1, b)
    | .eq => if s.unique then some (n + 1, b) else s.disorder? (n + 1) (b :: rest)
    | .lt => s.disorder? (n + 1) (b :: rest)
  | _, _ => none

end Sorting

/-- How lines are to be sorted by the options given, or what is wrong with them. -/
def sortingOf (o : Options) : Except String Sorting := do
  let given := (o.given.map (·.1)).filter orderLetters.contains
  let globalOrder : KeyOrder := ⟨given⟩
  let separator ← match o.value? 't' with
    | none => pure none
    | some "" => throw "empty tab"
    | some "\\0" => pure (some '\x00')
    | some text =>
      match text.toList with
      | [c] => pure (some c)
      | _ => throw ("multi-character tab " ++ quoted text)
  let keys ← (o.values 'k').mapM fun text =>
    match SortKey.parse text with
    | .ok k =>
      .ok (if k.order.letters.isEmpty then
        { k with order := globalOrder, blanksAtStart := globalOrder.has 'b', blanksAtEnd := globalOrder.has 'b' } else k)
    | .error e => .error e.message
  let kinds := ["dfi", "g", "h", "M", "n", "R", "V"].filter fun kind => kind.toList.any given.contains
  let exclusive := kinds.filter (· ≠ "dfi")
  let clash := 1 < exclusive.length || (!exclusive.isEmpty && (given.contains 'd' || given.contains 'i'))
  if clash then
    let letters := ['d', 'g', 'h', 'i', 'M', 'n', 'R', 'V'].filter given.contains
    throw ("options '-" ++ String.ofList letters ++ "' are incompatible")
  let keys := if keys.isEmpty then [SortKey.whole globalOrder] else keys
  return ⟨keys, separator, given.contains 'r', o.has 'u', o.has 's'⟩

/-- The lines of all operands, or why one of them cannot be read. -/
def sortedInputs (c : Call) (line : String → List String) : List String → Action (Except String (List (List (List Char))))
  | [] => return .ok []
  | operand :: rest => do
    match ← c.textOf operand with
    | .ok text =>
      match ← sortedInputs c line rest with
      | .ok more => return .ok ((line text).map String.toList :: more)
      | .error e => return .error e
    | .error e =>
      return .error ((if e = .isADirectory || e = .badChannel then "read failed: " else "cannot read: ") ++
        shownName operand ++ ": " ++ e.text)

/-- `sort`. -/
def sortProgram : Tool :=
  withOptions
    [flag 'b' "ignore-leading-blanks", flag 'd' "dictionary-order", flag 'f' "ignore-case",
      flag 'g' "general-numeric-sort", flag 'i' "ignore-nonprinting", flag 'M' "month-sort",
      flag 'h' "human-numeric-sort", flag 'n' "numeric-sort", flag 'R' "random-sort", flag 'r' "reverse",
      flag 'V' "version-sort", flag 'C' "", flag 'c' "", ⟨'\x01', "check", true, true⟩, valued 'k' "key",
      flag 'm' "merge", valued 'o' "output", flag 's' "stable", valued 'S' "buffer-size", valued 't' "field-separator",
      valued 'T' "temporary-directory", flag 'u' "unique", flag 'z' "zero-terminated", valued '\x02' "parallel"] 2
    fun c o => do
      match sortingOf o with
      | .error message => c.refuse message 2
      | .ok sorting =>
        let operands := orInput o.operands
        let quiet := o.has 'C' || o.value? '\x01' = some "quiet" || o.value? '\x01' = some "silent"
        let checks := quiet || o.has 'c' || o.has '\x01'
        let lineEnd := if o.has 'z' then "\x00" else "\n"
        let linesOf (text : String) : List String :=
          let lines := text.splitOn lineEnd
          if lines.getLast? = some "" then lines.dropLast else lines
        if checks && 1 < operands.length then
          c.refuse ("extra operand " ++ shellQuoted ((operands[1]?).getD "") ++ " not allowed with -" ++
            if quiet then "C" else "c") 2
        else
          match ← sortedInputs c linesOf operands with
          | .error message => c.refuse message 2
          | .ok inputs =>
            if checks then
              match sorting.disorder? 1 (inputs.headD []) with
              | none => return 0
              | some (n, line) =>
                if !quiet then
                  c.complain (operands.headD "-" ++ ":" ++ toString n ++ ": disorder: " ++ String.ofList line)
                return 1
            else
              let merged := inputs.foldl sorting.merge []
              let lines := if o.has 'm' then (if sorting.unique then sorting.distinct merged else merged)
                else sorting.sort inputs.flatten
              let output := String.join (lines.map fun l => String.ofList l ++ lineEnd)
              match o.value? 'o' with
              | none =>
                .say output
                return 0
              | some name =>
                let disk ← .disk
                match disk.write (c.path name) (Bytes.toList output) with
                | .ok disk =>
                  .keep disk
                  return 0
                | .error e => c.refuse ("open failed: " ++ shownName name ++ ": " ++ e.text) 2

/-! ## `comm` -/

/-- The lines of two lists in order, each with where it stands: in the first one, the second one or both. -/
def compareLists : Nat → List String → List String → List (Nat × String)
  | 0, _, _ => []
  | _, [], [] => []
  | _, [], b => b.map (2, ·)
  | _, a, [] => a.map (1, ·)
  | fuel + 1, x :: a, y :: b =>
    if x = y then (3, x) :: compareLists fuel a b
    else if x < y then (1, x) :: compareLists fuel a (y :: b)
    else (2, y) :: compareLists fuel (x :: a) b

/-- `comm`: lines that only one of two files has, and those that both have. -/
def commProgram : Tool :=
  withOptions [flag '1' "", flag '2' "", flag '3' "", flag '\x01' "check-order", flag '\x02' "nocheck-order",
      valued '\x03' "output-delimiter", flag '\x04' "total", flag 'z' "zero-terminated"] 1 fun c o => do
    match o.operands with
    | [] => c.refuseWithHint "missing operand" 1
    | [one] => c.refuseWithHint ("missing operand after " ++ quoted one) 1
    | [one, other] =>
      match ← c.textOf one, ← c.textOf other with
      | .error e, _ => c.refuse (shownName one ++ ": " ++ e.text) 1
      | _, .error e => c.refuse (shownName other ++ ": " ++ e.text) 1
      | .ok a, .ok b =>
        let (a, b) := (textLines a, textLines b)
        let rows := compareLists (a.length + b.length + 1) a b
        let separator := (o.value? '\x03').getD "\t"
        let front (column : Nat) : String :=
          (if 1 < column && !o.has '1' then separator else "") ++ if 2 < column && !o.has '2' then separator else ""
        let shown := rows.filter fun (column, _) => !o.has (Nat.digitChar column)
        .say (String.join (shown.map fun (column, text) => front column ++ text ++ "\n"))
        let ordered (lines : List String) : Bool := (lines.zip (lines.drop 1)).all fun (x, y) => x ≤ y
        if o.has '\x02' || (ordered a && ordered b) then return 0
        if !ordered a then c.complain "file 1 is not in sorted order"
        if !ordered b then c.complain "file 2 is not in sorted order"
        c.refuse "input is not in sorted order" 1
    | _ :: _ :: extra :: _ => c.refuseWithHint ("extra operand " ++ quoted extra) 1

end GateRunner
