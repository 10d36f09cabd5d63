import GateRunner.Program.Amount
import GateRunner.Program.Filter
import GateRunner.Program.Mode
import GateRunner.Program.Options

/-!
# Making and removing files

`touch`, `mkdir`, `rmdir`, `rm`, `unlink`, `truncate`, `mktemp` and `chmod`.
-/

namespace GateRunner

/-- Does the same for each operand, and says by the status whether all went well. -/
def forEachOperand (operands : List String) (use : String → Action Bool) : Action Nat := do
  let well ← operands.foldlM (fun well operand => do return (← use operand) && well) true
  return statusOf well

/-- Puts a changed disk in the place of the old one, or complains. -/
def Call.keepOr (c : Call) (result : Except PathError Disk) (complaint : PathError → String) : Action Bool := do
  match result with
  | .ok disk =>
    .keep disk
    return true
  | .error e =>
    c.complain (complaint e)
    return false

/-- A path without slashes at its end. -/
def withoutSlashes (path : String) : String :=
  match (path.toList.reverse.dropWhile (· = '/')).reverse with
  | [] => if path = "" then "" else "/"
  | rest => String.ofList rest

/-! ## `touch` -/

/-- `touch`. -/
def touchProgram : Tool :=
  withOptions
    [flag 'a' "", flag 'm' "", flag 'c' "no-create", valued 'd' "date", flag 'f' "", flag 'h' "no-dereference",
      valued 'r' "reference", valued 't' "", valued '\x01' "time"] 1
    fun c o => do
      if o.operands.isEmpty then c.refuseWithHint "missing file operand" 1
      else
        let disk ← .disk
        let reference : Except PathError (Option Nat) :=
          match o.value? 'r' with
          | none => .ok (if o.has 't' || o.has 'd' then some 0 else none)
          | some name =>
            match disk.entry? (c.path name) with
            | .ok (.file _ status) => .ok (some status.stamp)
            | .ok _ => .ok none
            | .error e => .error e
        match reference with
        | .error e => c.refuse ("failed to get attributes of " ++ shellQuoted ((o.value? 'r').getD "") ++ ": " ++ e.text) 1
        | .ok stamp =>
          forEachOperand o.operands fun name => do
            let disk ← .disk
            let complaint (e : PathError) : String := "cannot touch " ++ shellQuoted name ++ ": " ++ e.text
            match if name = "" then .error .notFound else disk.locate (c.path name) with
            | .error e =>
              if o.has 'c' && e = .notFound then return true
              c.complain (complaint e)
              return false
            | .ok (.taken place (.file bytes status)) =>
              let stamp := stamp.getD (disk.changes + 1)
              .keep (disk.put place (some (.file bytes { status with stamp })))
              return true
            | .ok (.taken _ _) => return true
            | .ok (.vacant place) =>
              if o.has 'c' then return true
              if name.endsWith "/" then
                c.complain ("setting times of " ++ shellQuoted name ++ ": No such file or directory")
                return false
              let stamp := stamp.getD (disk.changes + 1)
              .keep (disk.put place (some (.file [] ⟨0o644, stamp⟩)))
              return true

/-! ## `mkdir` and `rmdir` -/

/-- Makes the directories on the way along names, one after the other. -/
def makeWay (c : Call) (verbose : Bool) : String → List String → Action Bool
  | _, [] => return true
  | way, name :: rest => do
    let way := if way = "" then name else if way.endsWith "/" then way ++ name else way ++ "/" ++ name
    let complaint (e : PathError) : Action Bool := do
      c.complain ("cannot create directory " ++ shellQuoted way ++ ": " ++ e.text)
      return false
    if name = "" then makeWay c verbose (way ++ if way = "" then "/" else "") rest
    else
      let disk ← .disk
      match disk.entry? (c.path way) with
      | .ok (.dir _) => makeWay c verbose way rest
      | .ok _ => complaint (if rest.isEmpty then .occupied else .notADirectory)
      | .error _ =>
        match disk.makeDir (c.path way) with
        | .error e => complaint e
        | .ok disk =>
          .keep disk
          if verbose then .say (c.name ++ ": created directory " ++ shellQuoted way ++ "\n")
          makeWay c verbose way rest

/-- `mkdir`. -/
def mkdirProgram : Tool :=
  withOptions [valued 'm' "mode", flag 'p' "parents", flag 'v' "verbose", flag 'Z' ""] 1 fun c o => do
    if o.operands.isEmpty then c.refuseWithHint "missing operand" 1
    else if (o.value? 'm').any (fun m => (modeOf? m).isNone) then
      c.refuse ("invalid mode " ++ quoted ((o.value? 'm').getD "")) 1
    else
      forEachOperand o.operands fun name => do
        if o.has 'p' then
          let names := (withoutSlashes name).splitOn "/"
          if name.startsWith "/" then makeWay c (o.has 'v') "/" (names.drop 1) else makeWay c (o.has 'v') "" names
        else
          let disk ← .disk
          let made ← c.keepOr (if name = "" then .error .notFound else disk.makeDir (c.path name)) fun e =>
            "cannot create directory " ++ shellQuoted name ++ ": " ++ e.text
          if made && o.has 'v' then .say (c.name ++ ": created directory " ++ shellQuoted name ++ "\n")
          return made

/-- The disk without an empty directory. -/
def Disk.removeDir (disk : Disk) (path : String) : Except PathError Disk :=
  match disk.locateItself path with
  | .ok (.taken place (.dir [])) => .ok (disk.put place none)
  | .ok (.taken _ (.dir _)) => .error .notEmpty
  | .ok (.taken _ _) => .error .notADirectory
  | .ok (.vacant _) => .error .notFound
  | .error e => .error e

/-- `rmdir`. -/
def rmdirProgram : Tool :=
  withOptions [flag 'p' "parents", flag 'v' "verbose", flag '\x01' "ignore-fail-on-non-empty"] 1 fun c o => do
    if o.operands.isEmpty then c.refuseWithHint "missing operand" 1
    else
      forEachOperand o.operands fun name => do
        let remove (what name : String) : Action Bool := do
          if o.has 'v' then .say (c.name ++ ": removing directory, " ++ shellQuoted name ++ "\n")
          let disk ← .disk
          match disk.removeDir (c.path name) with
          | .error .notEmpty =>
            if o.has '\x01' then return true
            c.complain ("failed to remove " ++ what ++ shellQuoted name ++ ": Directory not empty")
            return false
          | result => c.keepOr result fun e => "failed to remove " ++ what ++ shellQuoted name ++ ": " ++ e.text
        let rec upward (what : String) : List String → Action Bool
          | [] => return true
          | way :: rest => do if ← remove what way then upward "directory " rest else return false
        if o.has 'p' then
          let names := (withoutSlashes name).splitOn "/"
          let ways := (List.range names.length).map fun i => "/".intercalate (names.take (names.length - i))
          upward "" (ways.filter (· ≠ ""))
        else remove "" name

/-! ## `rm` -/

/-- How things are removed. -/
structure Removal where
  recursive : Bool
  force : Bool
  emptyDirs : Bool
  asks : Bool
  verbose : Bool

/-- Asks whether something is to be done. -/
def Call.asks (c : Call) (question : String) : Action Bool := do
  .write 2 (c.name ++ ": " ++ question ++ "? ") (.done ())
  .line fun answer => return answer.toLower.startsWith "y"

/-- Whether something may be done: asked for if that is wished. -/
def Call.agrees (c : Call) (isAsked : Bool) (question : String) : Action Bool :=
  if isAsked then c.asks question else return true

/-- What kind of file something is, in words. -/
def kindText : Entry → String
  | .file [] _ => "regular empty file"
  | .file _ _ => "regular file"
  | .dir _ => "directory"
  | .link _ => "symbolic link"

mutual

/-- Removes an entry at a place, under the name it is shown by. -/
def removeEntry (c : Call) (r : Removal) (place : List String) (shown : String) : Entry → Action Bool
  | .dir entries => do
    if ← c.agrees (r.asks && !entries.isEmpty) ("descend into directory " ++ shellQuoted shown) then
      let well ← removeEntries c r place shown entries
      if !well then return false
      if !(← c.agrees r.asks ("remove directory " ++ shellQuoted shown)) then return true
      let disk ← .disk
      match disk.top.at? place with
      | some (.dir (_ :: _)) => return true
      | _ =>
        .keep (disk.put place none)
        if r.verbose then .say ("removed directory " ++ shellQuoted shown ++ "\n")
        return true
    else return true
  | e => do
    if !(← c.agrees r.asks ("remove " ++ kindText e ++ " " ++ shellQuoted shown)) then return true
    let disk ← .disk
    .keep (disk.put place none)
    if r.verbose then .say ("removed " ++ shellQuoted shown ++ "\n")
    return true

/-- Removes the entries of a directory. -/
def removeEntries (c : Call) (r : Removal) (place : List String) (shown : String) : List (String × Entry) → Action Bool
  | [] => return true
  | (name, e) :: rest => do
    let below := (if shown.endsWith "/" then shown else shown ++ "/") ++ Bytes.ofText name
    let one ← removeEntry c r (place ++ [name]) below e
    let others ← removeEntries c r place shown rest
    return one && others

end

/-- `rm`. -/
def rmProgram : Tool :=
  withOptions
    [flag 'f' "force", flag 'i' "", flag 'I' "", flag 'r' "recursive", flag 'R' "", flag 'd' "dir", flag 'v' "verbose",
      ⟨'\x01', "interactive", true, true⟩, flag '\x02' "one-file-system", flag '\x03' "no-preserve-root",
      ⟨'\x04', "preserve-root", true, true⟩] 1
    fun c o => do
      let named := o.last? ['f', 'i']
      let r : Removal := ⟨o.has 'r' || o.has 'R', named = some 'f', o.has 'd', named = some 'i', o.has 'v'⟩
      if o.operands.isEmpty then if o.has 'f' then return 0 else c.refuseWithHint "missing operand" 1
      else
        forEachOperand o.operands fun name => do
          let disk ← .disk
          let complain (text : String) : Action Bool := do
            c.complain ("cannot remove " ++ shellQuoted name ++ ": " ++ text)
            return false
          let last := baseName (withoutSlashes name)
          let trailing := ((withoutSlashes name).splitOn "/").getLast?.getD ""
          if r.recursive && (trailing = "." || trailing = "..") then
            c.complain ("refusing to remove '.' or '..' directory: skipping " ++ shellQuoted name)
            return false
          else if r.recursive && last = "" then
            c.complain "it is dangerous to operate recursively on '/'"
            c.complain "use --no-preserve-root to override this failsafe"
            return false
          else
            match if name = "" then .error .notFound else disk.locateItself (c.path (withoutSlashes name)) with
            | .error e => if r.force && (e = .notFound || e = .notADirectory) then return true else complain e.text
            | .ok (.vacant _) => if r.force then return true else complain PathError.notFound.text
            | .ok (.taken place (.dir entries)) =>
              if r.recursive then removeEntry c r place name (.dir entries)
              else if r.emptyDirs then
                if entries.isEmpty then removeEntry c r place name (.dir []) else complain PathError.notEmpty.text
              else complain PathError.isADirectory.text
            | .ok (.taken place e) =>
              if !name.endsWith "/" then removeEntry c r place name e
              else
                match r.recursive, disk.locate (c.path name) with
                | true, .ok (.taken place (.dir entries)) =>
                  let _ ← removeEntries c r place name entries
                  complain PathError.notADirectory.text
                | _, _ => complain PathError.notADirectory.text

/-- `unlink`. -/
def unlinkProgram : Tool := withOptions [] 1 fun c o => do
  match o.operands with
  | [] => c.refuseWithHint "missing operand" 1
  | _ :: extra :: _ => c.refuseWithHint ("extra operand " ++ quoted extra) 1
  | [name] =>
    let disk ← .disk
    let complain (e : PathError) : Action Nat := c.refuse ("cannot unlink " ++ shellQuoted name ++ ": " ++ e.text) 1
    match disk.locateItself (c.path name) with
    | .error e => complain e
    | .ok (.vacant _) => complain .notFound
    | .ok (.taken _ (.dir _)) => complain .isADirectory
    | .ok (.taken place _) =>
      .keep (disk.put place none)
      return 0

/-! ## `truncate` and `mktemp` -/

/-- A size by a number and what goes before it: more or less than a size, at least or at most so much, or the next
multiple. -/
def resized (sign : Option Char) (n size : Nat) : Nat :=
  match sign with
  | some '+' => size + n
  | some '-' => size - n
  | some '<' => min size n
  | some '>' => max size n
  | some '/' => size / n * n
  | some '%' => (size + n - 1) / n * n
  | _ => n

/-- `truncate`. -/
def truncateProgram : Tool :=
  withOptions [flag 'c' "no-create", flag 'o' "io-blocks", valued 'r' "reference", valued 's' "size"] 1 fun c o => do
    let text := o.value? 's'
    let sign := text.bind fun t => t.toList.head?.filter (fun s => s ∈ ['+', '-', '<', '>', '/', '%'])
    let digits := text.map fun t => if sign.isSome then String.ofList (t.toList.drop 1) else t
    match digits, digits.bind amount?, o.value? 'r' with
    | none, _, none => c.refuseWithHint "you must specify either '--size' or '--reference'" 1
    | some _, none, _ => c.refuse ("Invalid number: " ++ quoted (text.getD "")) 1
    | _, n, reference =>
      if n = some 0 && (sign = some '/' || sign = some '%') then c.refuse "division by zero" 1
      else if reference.isSome && n.isSome && sign.isNone then
        c.refuseWithHint "you must specify a relative '--size' with '--reference'" 1
      else if o.operands.isEmpty then c.refuseWithHint "missing file operand" 1
      else
        let disk ← .disk
        let known : Except PathError (Option Nat) :=
          match reference with
          | none => .ok none
          | some name => (disk.read (c.path name)).map fun bytes => some bytes.length
        match known with
        | .error e => c.refuse ("cannot stat " ++ shellQuoted (reference.getD "") ++ ": " ++ e.text) 1
        | .ok known =>
          forEachOperand o.operands fun name => do
            let disk ← .disk
            let bytes := ((disk.read (c.path name)).toOption).getD []
            let before := known.getD bytes.length
            let size := match n with
              | some n => resized sign n before
              | none => before
            if o.has 'c' && !disk.pathExists (c.path name) then return true
            c.keepOr (disk.write (c.path name) (bytes.take size ++ List.replicate (size - bytes.length) 0)) fun e =>
              "cannot open " ++ shellQuoted name ++ " for writing: " ++ e.text

/-- `mktemp`. The names it makes are made of the number of changes to the disk. -/
def mktempProgram : Tool :=
  withOptions
    [flag 'd' "directory", flag 'u' "dry-run", flag 'q' "quiet", ⟨'p', "tmpdir", true, false⟩, valued '\x01' "suffix",
      flag 't' ""] 1
    fun c o => do
      let template := o.operands.headD "tmp.XXXXXXXXXX"
      let marks := (template.toList.reverse.takeWhile (· = 'X')).length
      if marks < 3 then c.refuse ("too few X's in template " ++ quoted template) 1
      else
        let disk ← .disk
        let letters := "abcdefghijklmnopqrstuvwxyz".toList
        let number := disk.changes + 1
        let letter (i : Nat) : Char := (letters[(number / Nat.pow 26 (marks - 1 - i) + i * 7) % 26]?).getD 'x'
        let front := String.ofList (template.toList.take (template.length - marks))
        let made := front ++ String.ofList ((List.range marks).map letter) ++ (o.value? '\x01').getD ""
        let name := match o.value? 'p' with
          | some d => d ++ "/" ++ made
          | none => if o.operands.isEmpty || o.has 't' then "/tmp/" ++ made else made
        let kind := if o.has 'd' then "directory" else "file"
        let result := if o.has 'u' then .ok disk
          else if o.has 'd' then disk.makeDir (c.path name)
          else disk.write (c.path name) []
        if ← c.keepOr result fun e =>
            "failed to create " ++ kind ++ " via template " ++ quoted template ++ ": " ++ e.text then
          .say (name ++ "\n")
          return 0
        else return 1

/-! ## `chmod` -/

mutual

/-- Changes the permissions of an entry, and of what is below it if that is wished. Gives what is to be said. -/
def changeModes (change : Bool → Nat → Nat) (recursive : Bool) (shown : String) :
    Entry → Entry × List (String × Nat × Nat)
  | .file bytes status =>
    let mode := change false status.mode
    (.file bytes { status with mode }, [(shown, status.mode, mode)])
  | .dir entries =>
    let (inner, said) := if recursive then changeAllModes change shown entries else (entries, [])
    (.dir inner, (shown, 0o755, change true 0o755) :: said)
  | .link target => (.link target, [])

/-- Changes the permissions of entries. -/
def changeAllModes (change : Bool → Nat → Nat) (shown : String) :
    List (String × Entry) → List (String × Entry) × List (String × Nat × Nat)
  | [] => ([], [])
  | (name, e) :: rest =>
    let (e, said) := changeModes change true (shown ++ "/" ++ Bytes.ofText name) e
    let (rest, more) := changeAllModes change shown rest
    ((name, e) :: rest, said ++ more)

end

/-- What `chmod` says about a file. -/
def modeReport (all : Bool) (said : String × Nat × Nat) : String :=
  let (name, before, after) := said
  let shown (mode : Nat) : String := octalText 4 mode ++ " (" ++ modeLetters mode ++ ")"
  if before ≠ after then
    "mode of " ++ shellQuoted name ++ " changed from " ++ shown before ++ " to " ++ shown after ++ "\n"
  else if all then "mode of " ++ shellQuoted name ++ " retained as " ++ shown after ++ "\n"
  else ""

/-- A first argument that looks like options but is a change of permissions. -/
def isModeChange (arg : String) : Bool :=
  arg.startsWith "-" && 1 < arg.length && (arg.toList.drop 1).all (fun c => c ∈ ['r', 'w', 'x', 'X', 's', 't'])

/-- `chmod`. -/
def chmodProgram : Tool := fun c =>
  let isMode := (c.args.find? (fun a => !a.startsWith "-" || isModeChange a)).filter isModeChange
  let args := match isMode with
    | some mode => c.args.erase mode
    | none => c.args
  withOptions
    [flag 'R' "recursive", flag 'v' "verbose", flag 'c' "changes", flag 'f' "silent", flag 'f' "quiet",
      valued '\x01' "reference"] 1
    (fun c o => do
      let operands := isMode.toList ++ o.operands
      let reference ← match o.value? '\x01' with
        | none => pure none
        | some name => do
          let disk ← .disk
          pure ((disk.entry? (c.path name)).toOption.map Entry.mode)
      let (mode, names) := match reference with
        | some n => (some (fun (_ : Bool) (_ : Nat) => n), operands)
        | none => ((operands.head?).bind modeOf?, operands.drop 1)
      match operands, mode with
      | [], _ => c.refuseWithHint "missing operand" 1
      | first :: _, none =>
        if names.isEmpty then c.refuseWithHint ("missing operand after " ++ quoted first) 1
        else c.refuseWithHint ("invalid mode: " ++ quoted first) 1
      | first :: _, some change =>
        if names.isEmpty then c.refuseWithHint ("missing operand after " ++ quoted first) 1
        else
          forEachOperand names fun name => do
            let disk ← .disk
            match disk.locate (c.path name) with
            | .ok (.taken place e) =>
              let (e, said) := changeModes change (o.has 'R') name e
              .keep (disk.put place (some e))
              if o.has 'v' || o.has 'c' then .say (String.join (said.map (modeReport (o.has 'v'))))
              return true
            | .ok (.vacant _) | .error .notFound =>
              let dangling := (disk.entryItself? (c.path name)).isOk
              if !o.has 'f' then
                c.complain (if dangling then "cannot operate on dangling symlink " ++ shellQuoted name
                  else "cannot access " ++ shellQuoted name ++ ": No such file or directory")
              return false
            | .error e =>
              if !o.has 'f' then c.complain ("cannot access " ++ shellQuoted name ++ ": " ++ e.text)
              return false)
    (c.withArgs args)

end GateRunner
