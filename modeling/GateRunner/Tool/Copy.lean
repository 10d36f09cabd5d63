import GateRunner.Tool.Files

/-!
# Copying, moving and linking

`cp` makes copies of files and trees, `mv` gives them other places, and `ln` makes links to them.
-/

namespace GateRunner

/-- Where operands are to go. -/
inductive Destination
  /-- Each into a directory, under its own name. -/
  | directory (path : String)
  /-- To a path of its own. -/
  | exactly (path : String)

/-- The path that a source gets at a destination. -/
def Destination.pathFor (d : Destination) (source : String) : String :=
  match d with
  | .exactly path => path
  | .directory path =>
    (if path.endsWith "/" then path else path ++ "/") ++ ((withoutSlashes source).splitOn "/").getLast?.getD ""

/-- The operands of a program that puts sources somewhere, taken apart. -/
def withDestination (c : Call) (o : Options) (use : List String → Destination → Action Nat) : Action Nat := do
  let disk ← .disk
  let problem (path : String) : Option PathError :=
    match if path = "" then .error .notFound else disk.entry? (c.path path) with
    | .ok (.dir _) => none
    | .ok _ => some .notADirectory
    | .error e => some e
  match o.value? 't', o.operands with
  | _, [] => c.refuseWithHint "missing file operand" 1
  | some target, sources =>
    match problem target with
    | some e => c.refuse ("target directory " ++ shellQuoted target ++ ": " ++ e.text) 1
    | none => use sources (.directory target)
  | none, [only] => c.refuseWithHint ("missing destination file operand after " ++ shellQuoted only) 1
  | none, [source, target] =>
    use [source] (if (problem target).isNone && !o.has 'T' then .directory target else .exactly target)
  | none, operands =>
    let target := operands.getLast?.getD ""
    if o.has 'T' then c.refuseWithHint ("extra operand " ++ shellQuoted ((operands[2]?).getD "")) 1
    else
      match problem target with
      | some e => c.refuse ("target " ++ shellQuoted target ++ ": " ++ e.text) 1
      | none => use operands.dropLast (.directory target)

/-- The names on the way from one place to another. -/
def wayBetween (from_ to_ : List String) : List String :=
  let shared := ((from_.zip to_).takeWhile fun (a, b) => a = b).length
  let names := (from_.drop shared).map (fun _ => "..") ++ to_.drop shared
  if names.isEmpty then ["."] else names

/-- Whether a place is at or below another one. -/
def isWithin (outer inner : List String) : Bool := inner.take outer.length = outer

/-- Why something cannot be found, after its name. -/
def cannotStat (name : String) (e : PathError) : String := "cannot stat " ++ shellQuoted name ++ ": " ++ e.text

/-! ## `cp` -/

/-- How copies are made. -/
structure Copying where
  recursive : Bool
  /-- Whether links are copied as links. -/
  keepsLinks : Bool
  /-- Whether permissions are kept. -/
  keepsModes : Bool
  neverOver : Bool
  onlyNewer : Bool
  removesFirst : Bool
  asks : Bool
  verbose : Bool
  symbolic : Bool

/-- How far below its beginning a copy may go. -/
def copyDepth : Nat := 200

/-- The time of the last change of an entry, as far as it is kept. -/
def Entry.stamp : Entry → Nat
  | .file _ status => status.stamp
  | _ => 0

/-- Copies an entry to a path, under the names they are shown by. -/
def copyEntry (c : Call) (k : Copying) : Nat → Entry → String → String → Action Bool
  | 0, _, _, _ => return false
  | fuel + 1, source, from_, to_ => do
    let disk ← .disk
    let say : Action Unit := if k.verbose then .say (shellQuoted from_ ++ " -> " ++ shellQuoted to_ ++ "\n") else return
    let there := disk.entry? (c.path to_)
    match source with
    | .dir entries =>
      match there with
      | .ok (.file _ _) | .ok (.link _) =>
        c.complain ("cannot overwrite non-directory " ++ shellQuoted to_ ++ " with directory " ++ shellQuoted from_)
        return false
      | _ =>
        let made ← match there with
          | .ok _ => pure true
          | .error _ => do
            say
            c.keepOr (disk.makeDir (c.path (withoutSlashes to_))) fun e =>
              "cannot create directory " ++ shellQuoted to_ ++ ": " ++ e.text
        if !made then return false
        entries.foldlM (fun well (name, _) => do
          let disk ← .disk
          let name := Bytes.ofText name
          let join (d : String) : String := if d.endsWith "/" then d ++ name else d ++ "/" ++ name
          match if k.keepsLinks then disk.entryItself? (c.path (join from_)) else disk.entry? (c.path (join from_)) with
          | .ok e => return (← copyEntry c k fuel e (join from_) (join to_)) && well
          | .error e =>
            c.complain (cannotStat (join from_) e)
            return false) true
    | source =>
      let newer : Bool := match there with
        | .ok e => source.stamp ≤ e.stamp
        | .error _ => false
      if there.isOk && (k.neverOver || (k.onlyNewer && newer)) then return true
      if !(← c.agrees (there.isOk && k.asks) ("overwrite " ++ shellQuoted to_)) then return false
      match there, source with
      | .ok (.dir _), _ =>
        c.complain ("cannot overwrite directory " ++ shellQuoted to_ ++ " with non-directory" ++
          if k.recursive then " " ++ shellQuoted from_ else "")
        return false
      | _, .link target =>
        say
        let cleared := match disk.locateItself (c.path to_) with
          | .ok (.taken place _) => disk.put place none
          | _ => disk
        .keep (cleared.makeLink (c.path to_) target)
        return true
      | _, .file bytes status =>
        if k.symbolic then
          say
          .keep (disk.makeLink (c.path to_) (Bytes.toText from_))
          return true
        let fault (e : PathError) : String :=
          let e := if e = .isADirectory && to_.endsWith "/" then .notADirectory else e
          "cannot create regular file " ++ shellQuoted to_ ++ ": " ++ e.text
        let cleared := match k.removesFirst, disk.locateItself (c.path to_) with
          | true, .ok (.taken place _) => disk.put place none
          | _, _ => disk
        match if to_ = "" then .error .notFound else cleared.filePlace? (c.path to_) with
        | .error e =>
          c.complain (fault e)
          return false
        | .ok place =>
          if (disk.entryItself? (c.path to_)).isOk && there.isOk = false && !k.removesFirst then
            c.complain ("not writing through dangling symlink " ++ shellQuoted to_)
            return false
          say
          let filled := cleared.fill place bytes
          let mode := if there.isOk && !k.keepsModes then none
            else some (if k.keepsModes then status.mode else status.mode &&& (0o777 ^^^ standardMask))
          .keep (match mode, filled.top.at? place with
            | some mode, some (.file bytes new) =>
              filled.put place (some (.file bytes
                { mode, stamp := if k.keepsModes then status.stamp else new.stamp }))
            | _, _ => filled)
          return true
      | _, .dir _ => return false

/-- Copies an operand to a destination. -/
def copyOperand (c : Call) (k : Copying) (d : Destination) (source : String) : Action Bool := do
  let disk ← .disk
  let to_ := d.pathFor source
  let fail (text : String) : Action Bool := do
    c.complain text
    return false
  match if source = "" then .error .notFound
    else if k.keepsLinks then disk.entryItself? (c.path source) else disk.entry? (c.path source) with
  | .error e => fail (cannotStat source e)
  | .ok e =>
    if e.isDir && !k.recursive then fail ("-r not specified; omitting directory " ++ shellQuoted source)
    else
      match disk.locate (c.path to_) with
      | .error .notADirectory => fail (cannotStat to_ .notADirectory)
      | target =>
        let same := match disk.placeOf? (c.path source), disk.placeOf? (c.path to_) with
          | .ok a, .ok b => a = b
          | _, _ => false
        let inside := match disk.placeOf? (c.path source), target with
          | .ok a, .ok (.taken b _) | .ok a, .ok (.vacant b) => isWithin a b
          | _, _ => false
        if e.isDir && inside then
          fail ("cannot copy a directory, " ++ shellQuoted source ++ ", into itself, " ++ shellQuoted to_)
        else if same && !k.removesFirst then
          fail (shellQuoted source ++ " and " ++ shellQuoted to_ ++ " are the same file")
        else copyEntry c k copyDepth e source to_

/-- `cp`. -/
def cpProgram : Tool :=
  withOptions
    [flag 'a' "archive", flag 'd' "", flag 'f' "force", flag 'i' "interactive", flag 'H' "", flag 'l' "link",
      flag 'L' "dereference", flag 'n' "no-clobber", flag 'P' "no-dereference", flag 'p' "",
      ⟨'p', "preserve", true, true⟩, flag 'r' "recursive", flag 'R' "", flag 's' "symbolic-link",
      valued 't' "target-directory", flag 'T' "no-target-directory", ⟨'u', "update", false, true⟩, flag 'v' "verbose",
      flag 'x' "one-file-system", flag '\x01' "remove-destination", flag '\x02' "parents", flag 'b' ""] 1
    fun c o => withDestination c o fun sources d => do
      let recursive := o.has 'r' || o.has 'R' || o.has 'a'
      let links := match o.last? ['L', 'P', 'a', 'd', 'H'] with
        | some 'L' | some 'H' => false
        | some _ => true
        | none => recursive
      let k : Copying :=
        { recursive, keepsLinks := links, keepsModes := o.has 'p' || o.has 'a',
          neverOver := o.last? ['n', 'i', 'f'] = some 'n', onlyNewer := o.has 'u', removesFirst := o.has '\x01',
          asks := o.last? ['n', 'i', 'f'] = some 'i', verbose := o.has 'v', symbolic := o.has 's' }
      if o.has 'n' then
        c.complain "warning: behavior of -n is non-portable and may change in future; use --update=none instead"
      forEachOperand sources fun source => do
        match o.has '\x02', d with
        | true, .directory path =>
          let names := (withoutSlashes source).splitOn "/"
          if ← makeWay c false path (names.dropLast.filter (· ≠ "")) then
            copyOperand c k (.exactly (path ++ "/" ++ source)) source
          else return false
        | _, d => copyOperand c k d source

/-! ## `mv` -/

/-- Moves an operand to a destination. -/
def moveOperand (c : Call) (o : Options) (d : Destination) (source : String) : Action Bool := do
  let disk ← .disk
  let to_ := d.pathFor source
  let fail (text : String) : Action Bool := do
    c.complain text
    return false
  let cannotMove (text : String) : Action Bool :=
    fail ("cannot move " ++ shellQuoted source ++ " to " ++ shellQuoted to_ ++ ": " ++ text)
  let origin := if source = "" then .error .notFound else disk.locateItself (c.path (withoutSlashes source))
  match origin.bind fun found =>
      match found with
      | .taken _ (.dir _) | .vacant _ => origin
      | _ => if source.endsWith "/" then .error .notADirectory else origin with
  | .error e => fail (cannotStat source e)
  | .ok (.vacant _) => fail (cannotStat source .notFound)
  | .ok (.taken place e) =>
    match disk.locateItself (c.path (withoutSlashes to_)) with
    | .error .notADirectory => fail (cannotStat to_ .notADirectory)
    | .error e => cannotMove e.text
    | .ok target =>
      let (there, at_) := match target with
        | .taken at_ e => (some e, at_)
        | .vacant at_ => (none, at_)
      if e.isDir && isWithin place at_ then
        fail ("cannot move " ++ shellQuoted source ++ " to a subdirectory of itself, " ++
          shellQuoted (if place = at_ then to_ ++ "/" ++ baseName source else to_))
      else if to_ = "" then cannotMove PathError.notFound.text
      else if place = at_ then fail (shellQuoted source ++ " and " ++ shellQuoted to_ ++ " are the same file")
      else if to_.endsWith "/" && !e.isDir then cannotMove PathError.notADirectory.text
      else
        let blocked : Option String :=
          match there, e with
          | some (.dir _), .file _ _ | some (.dir _), .link _ =>
            some ("cannot overwrite directory " ++ shellQuoted to_ ++ " with non-directory")
          | some (.file _ _), .dir _ | some (.link _), .dir _ =>
            some ("cannot overwrite non-directory " ++ shellQuoted to_ ++ " with directory " ++ shellQuoted source)
          | some (.dir (_ :: _)), .dir _ =>
            some ("cannot overwrite " ++ shellQuoted to_ ++ ": Directory not empty")
          | _, _ => none
        match blocked with
        | some text => fail text
        | none =>
          if there.isSome && o.last? ['n', 'f', 'i'] = some 'n' then fail ("not replacing " ++ shellQuoted to_)
          else if o.has 'u' && (there.map Entry.stamp).any (e.stamp ≤ ·) then return true
          else if !(← c.agrees (there.isSome && o.last? ['n', 'f', 'i'] = some 'i')
              ("overwrite " ++ shellQuoted to_)) then return false
          else
            let disk ← .disk
            .keep ((disk.put place none).put at_ (some e))
            if o.has 'v' then .say ("renamed " ++ shellQuoted source ++ " -> " ++ shellQuoted to_ ++ "\n")
            return true

/-- `mv`. -/
def mvProgram : Tool :=
  withOptions
    [flag 'f' "force", flag 'i' "interactive", flag 'n' "no-clobber", valued 't' "target-directory",
      flag 'T' "no-target-directory", ⟨'u', "update", false, true⟩, flag 'v' "verbose", flag 'b' "",
      flag '\x01' "strip-trailing-slashes"] 1
    fun c o => withDestination c o fun sources d => forEachOperand sources (moveOperand c o d)

/-! ## `ln` -/

/-- Makes a link to an operand at a destination. -/
def linkOperand (c : Call) (o : Options) (d : Destination) (source : String) : Action Bool := do
  let disk ← .disk
  let to_ := d.pathFor source
  let fail (text : String) : Action Bool := do
    c.complain text
    return false
  let symbolic := o.has 's'
  let kind := if symbolic then "symbolic" else "hard"
  let cannotMake (e : PathError) : Action Bool :=
    fail ("failed to create " ++ kind ++ " link " ++ shellQuoted to_ ++
      (if symbolic || e = .occupied then "" else " => " ++ shellQuoted source) ++ ": " ++ e.text)
  let original := disk.entryItself? (c.path source)
  match symbolic, original with
  | false, .error e => fail ("failed to access " ++ shellQuoted source ++ ": " ++ e.text)
  | false, .ok (.dir _) => fail (shownName source ++ ": hard link not allowed for directory")
  | _, original =>
    let put (disk : Disk) (place : List String) : Action Bool := do
      let text := match o.has 'r', disk.locate (c.path source) with
        | true, .ok (.taken there _) | true, .ok (.vacant there) => "/".intercalate (wayBetween place.dropLast there)
        | _, _ => Bytes.toText source
      let entry := if symbolic then Entry.link text else (original.toOption).getD (.link "")
      .keep (disk.put place (some entry))
      if o.has 'v' then
        .say (shellQuoted to_ ++ (if symbolic then " -> " else " => ") ++ shellQuoted source ++ "\n")
      return true
    match if to_ = "" then .error .notFound else disk.locateItself (c.path to_) with
    | .error e => cannotMake e
    | .ok (.vacant place) => put disk place
    | .ok (.taken place (.dir _)) =>
      if o.has 'f' && place ≠ [] then fail (shownName to_ ++ ": cannot overwrite directory") else cannotMake .occupied
    | .ok (.taken place _) =>
      if o.has 'f' then
        if !symbolic && (disk.placeOf? (c.path source)).toOption = some place then
          fail (shellQuoted source ++ " and " ++ shellQuoted to_ ++ " are the same file")
        else put disk place
      else cannotMake .occupied

/-- `ln`. -/
def lnProgram : Tool :=
  withOptions
    [flag 'f' "force", flag 'i' "interactive", flag 'L' "logical", flag 'n' "no-dereference", flag 'P' "physical",
      flag 'r' "relative", flag 's' "symbolic", valued 't' "target-directory", flag 'T' "no-target-directory",
      flag 'v' "verbose", flag 'b' "", flag 'd' ""] 1
    fun c o => do
      match o.value? 't', o.operands with
      | none, [only] => forEachOperand [only] (linkOperand c o (.directory "."))
      | none, [source, target] =>
        let disk ← .disk
        let itself := match disk.entryItself? (c.path target) with
          | .ok (.link _) => o.has 'n'
          | _ => false
        let isDir := target ≠ "" && disk.holdsDirectory (c.path target) && !o.has 'T' && !itself
        forEachOperand [source] (linkOperand c o (if isDir then .directory target else .exactly target))
      | _, _ => withDestination c o fun sources d => forEachOperand sources (linkOperand c o d)

end GateRunner
