import GateRunner.Machine.World

/-!
# Redirections

A redirection leads a channel to a file, to where another channel leads, or nowhere. Where the channel led before is
kept under a channel of a higher number, so that it can be led back.
-/

namespace GateRunner.Machine

open Shell

/-- The least number of a channel that keeps where another led. -/
def firstKept : Nat := 10

/-- A channel that is not in use, to keep something. -/
def Process.freeChannel (p : Process) : Nat :=
  let used := (p.channels.map (·.1)).filter (firstKept ≤ ·)
  (List.range (used.length + 1)).foldr (fun i found => if used.contains (firstKept + i) then found else firstKept + i)
    firstKept

/-- The channel that a device's path means. -/
def deviceChannel? (place : String) : Option Nat :=
  match place with
  | "/dev/stdin" => some 0
  | "/dev/stdout" => some 1
  | "/dev/stderr" => some 2
  | _ =>
    match place.toList with
    | '/' :: 'd' :: 'e' :: 'v' :: '/' :: 'f' :: 'd' :: '/' :: digits => (String.ofList digits).toNat?
    | _ => none

/-- The wording of why a file cannot be opened. -/
def openFault (creating : Bool) (name : String) (e : PathError) : String :=
  let reason := match e with
    | .notFound | .notADirectory => if creating then "Directory nonexistent" else "No such file"
    | e => e.text
  (if creating then "cannot create " else "cannot open ") ++ name ++ ": " ++ reason

/-- Where a file to be written is. A path that ends with a slash is that of a directory, even if there is a file. -/
def writtenPlace (disk : Disk) (path : String) : Except PathError (List String) :=
  match disk.filePlace? path with
  | .error .notADirectory =>
    let bare := (path.toList.reverse.dropWhile (· = '/')).reverse
    if path.endsWith "/" && (disk.filePlace? (String.ofList bare)).isOk then .error .isADirectory
    else .error .notADirectory
  | place => place

/-- The stream that a redirection leads to, none for a closed channel. -/
def World.target (w : World) (p : Process) (kind : RedirectKind) (name document : String) :
    Except String (World × Option Nat) :=
  let path := joinPath p.session.directory (Bytes.toText name)
  let device := deviceChannel? path
  let reading : Except String (World × Option Nat) :=
    match if path = "/dev/null" then .ok (.link "") else w.disk.entry? path with
    | .ok (.link _) =>
      let (n, w) := w.openStream .nothing
      .ok (w, some n)
    | .ok (.file bytes _) =>
      let (n, w) := w.openStream (.text (Bytes.ofList bytes).toList true)
      .ok (w, some n)
    | .ok _ =>
      let (n, w) := w.openStream .directory
      .ok (w, some n)
    | .error e => .error (openFault false name e)
  let writing (empties atEnd : Bool) : Except String (World × Option Nat) :=
    if path = "/dev/null" then
      let (n, w) := w.openStream .nothing
      .ok (w, some n)
    else
      match if name = "" then .error .notFound else writtenPlace w.disk path with
      | .error e => .error (openFault true name e)
      | .ok place =>
        let held := match w.disk.top.at? place with
          | some (.file bytes _) => some bytes
          | _ => none
        let disk := if empties || held.isNone then w.disk.fill place [] else w.disk
        let (n, w) := { w with disk }.openStream (.file place 0 atEnd)
        .ok (w, some n)
  let duplicate (channel : Nat) : Except String (World × Option Nat) :=
    match p.channels.lookup channel with
    | some n => .ok (w, some n)
    | none => .error (toString channel ++ ": Bad file descriptor")
  match kind with
  | .here _ =>
    let (n, w) := w.openStream (.text document.toList false)
    .ok (w, some n)
  | .duplicate => if name = "-" then .ok (w, none) else duplicate ((name.toNat?).getD 0)
  | .read =>
    match device with
    | some channel => duplicate channel
    | none => if name = "" then .error (openFault false name .notFound) else reading
  | .readWrite =>
    match writing false false with
    | .ok (w, _) =>
      match w.disk.read path with
      | .ok bytes =>
        let (n, w) := w.openStream (.text (Bytes.ofList bytes).toList true)
        .ok (w, some n)
      | .error e => .error (openFault true name e)
    | .error e => .error e
  | .write =>
    match device with
    | some channel => duplicate channel
    | none =>
      let occupied := match w.disk.entry? path with
        | .ok (.file _ _) => path ≠ "/dev/null"
        | _ => false
      if p.session.on 'C' && occupied then .error (openFault true name .occupied) else writing true false
  | .overwrite =>
    match device with
    | some channel => duplicate channel
    | none => writing true false
  | .append =>
    match device with
    | some channel => duplicate channel
    | none => writing false true

/-- One redirection carried out. What has been kept so far is given in reverse order, if anything is to be kept. -/
def World.redirect (w : World) (p : Process) (saved : Option (List (Nat × Option Nat))) (channel : Nat)
    (kind : RedirectKind) (name document : String) :
    Except String (World × Process × Option (List (Nat × Option Nat))) := do
  let (w, stream) ← w.target p kind name document
  match saved with
  | none =>
    let (w, p) := w.lead p channel stream
    return (w, p, none)
  | some kept =>
    if kept.any (·.1 = channel) then
      let (w, p) := w.lead p channel stream
      return (w, p, some kept)
    else
      match p.channels.lookup channel with
      | none =>
        let (w, p) := w.lead p channel stream
        return (w, p, some ((channel, none) :: kept))
      | some old =>
        let hidden := p.freeChannel
        let (w, p) := w.lead p hidden (some old)
        let (w, p) := w.lead p channel stream
        return (w, p, some ((channel, some hidden) :: kept))

/-- Leads channels back to where they led before. -/
def World.restore (w : World) (p : Process) (saved : List (Nat × Option Nat)) : World × Process :=
  saved.foldl (fun (w, p) (channel, hidden) =>
    match hidden with
    | none => w.lead p channel none
    | some hidden =>
      let old := p.channels.lookup hidden
      let (w, p) := w.lead p channel old
      w.lead p hidden none) (w, p)

end GateRunner.Machine
