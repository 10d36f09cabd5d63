import GateRunner.Project.Tree
import GateRunner.Text.Utf8

/-!
# Paths on a disk

A disk is the tree below `/`. A path is a text; going along it, `.` stays, `..` goes up from where one stands, and a
symbolic link leads on along its target, at most forty times on one way. `Disk.locate` says what stands at the end of a
path: an entry, with its place in the tree, or the place for one, if only the last name is missing.
-/

namespace GateRunner

/-- Why a path leads nowhere, and why nothing can be done at its end. -/
inductive PathError
  | notFound
  | notADirectory
  | isADirectory
  | occupied
  | notEmpty
  | tooManyLinks
  | permission
  | nameTooLong
  | notExecutable
  | invalid
  | badChannel
deriving DecidableEq, Repr

namespace PathError

/-- The wording of an error. -/
def text : PathError → String
  | .notFound => "No such file or directory"
  | .notADirectory => "Not a directory"
  | .isADirectory => "Is a directory"
  | .occupied => "File exists"
  | .notEmpty => "Directory not empty"
  | .tooManyLinks => "Too many levels of symbolic links"
  | .permission => "Permission denied"
  | .nameTooLong => "File name too long"
  | .notExecutable => "Exec format error"
  | .invalid => "Invalid argument"
  | .badChannel => "Bad file descriptor"

/-- The number of an error. -/
def number : PathError → Nat
  | .notFound => 2
  | .notADirectory => 20
  | .isADirectory => 21
  | .occupied => 17
  | .notEmpty => 39
  | .tooManyLinks => 40
  | .permission => 13
  | .nameTooLong => 36
  | .notExecutable => 8
  | .invalid => 22
  | .badChannel => 9

/-- The wording with the number. -/
def message (e : PathError) : String := e.text ++ " (os error " ++ toString e.number ++ ")"

end PathError

/-- What stands at the end of a path, with its place in the tree. -/
inductive Place
  /-- An entry that is there. -/
  | taken (path : List String) (entry : Entry)
  /-- A place in a directory that is there. -/
  | vacant (path : List String)

/-- The names of a path. -/
def splitPath (path : String) : List String := (path.toList.splitOn '/').map String.ofList

/-- A path below another, unless it starts from the top. -/
def joinPath (base name : String) : String :=
  if name.startsWith "/" then name else if base.endsWith "/" then base ++ name else base ++ "/" ++ name

/-- The last name of a path. -/
def baseName (path : String) : String := ((splitPath path).filter (fun n => n ≠ "" ∧ n ≠ ".")).getLast?.getD ""

/-- Everything there is, as the directory `/`, with the number of changes made so far. -/
structure Disk where
  top : Entry
  changes : Nat
deriving Inhabited

namespace Disk

/-- How many links may be followed on one way. -/
def linkLimit : Nat := 40

/-- How many bytes a name may have. -/
def nameLimit : Nat := 255

/-- How many bytes a path may have. -/
def pathLimit : Nat := 4095

/-- Goes along the names of a path from a place in the tree. Whether a link at the very end is followed is for the
caller to say. -/
def walk (disk : Disk) (followLast : Bool) : (links : Nat) → (here : List String) → (names : List String) →
    Except PathError Place
  | links, here, names =>
    match names with
    | [] =>
      match disk.top.at? here with
      | some entry => .ok (.taken here entry)
      | none => .error .notFound
    | name :: rest =>
      match disk.top.at? here with
      | none => .error .notFound
      | some (.dir entries) =>
        if name = "" ∨ name = "." then walk disk followLast links here rest
        else if name = ".." then walk disk followLast links here.dropLast rest
        else if nameLimit < name.utf8ByteSize then .error .nameTooLong
        else
          match entries.lookup name with
          | none => if rest.all (· = "") then .ok (.vacant (here ++ [name])) else .error .notFound
          | some (.link target) =>
            if rest.isEmpty && !followLast then .ok (.taken (here ++ [name]) (.link target))
            else
              match links with
              | 0 => .error .tooManyLinks
              | links + 1 =>
                walk disk followLast links (if target.startsWith "/" then [] else here) (splitPath target ++ rest)
          | some _ => walk disk followLast links (here ++ [name]) rest
      | some _ => .error .notADirectory
termination_by links _ names => (links, names.length)

/-- What stands at the end of a path from the top. Whether a link at the very end is followed is for the caller to
say; but one with a slash after it always is. -/
def locateWith (disk : Disk) (followLast : Bool) (path : String) : Except PathError Place :=
  if pathLimit < path.utf8ByteSize then .error .nameTooLong
  else disk.walk followLast linkLimit [] (splitPath path)

/-- What stands at the end of a path from the top, a link at the very end being followed. -/
def locate (disk : Disk) (path : String) : Except PathError Place := disk.locateWith true path

/-- What stands at the end of a path from the top, be it a link. -/
def locateItself (disk : Disk) (path : String) : Except PathError Place := disk.locateWith false path

/-- The entry at the end of a path, links being followed. -/
def entry? (disk : Disk) (path : String) : Except PathError Entry :=
  match disk.locate path with
  | .ok (.taken _ entry) => .ok entry
  | .ok (.vacant _) => .error .notFound
  | .error e => .error e

/-- Whether a path leads to anything. -/
def pathExists (disk : Disk) (path : String) : Bool := (disk.entry? path).isOk

/-- Whether a path leads to a directory. -/
def holdsDirectory (disk : Disk) (path : String) : Bool :=
  match disk.entry? path with
  | .ok (.dir _) => true
  | _ => false

/-- The entry at the end of a path, be it a link. -/
def entryItself? (disk : Disk) (path : String) : Except PathError Entry :=
  match disk.locateItself path with
  | .ok (.taken _ entry) => .ok entry
  | .ok (.vacant _) => .error .notFound
  | .error e => .error e

/-- The place of what a path leads to, links being followed. -/
def placeOf? (disk : Disk) (path : String) : Except PathError (List String) :=
  match disk.locate path with
  | .ok (.taken place _) => .ok place
  | .ok (.vacant _) => .error .notFound
  | .error e => .error e

/-- The bytes of the file at the end of a path. -/
def read (disk : Disk) (path : String) : Except PathError (List UInt8) := do
  match ← disk.entry? path with
  | .file bytes _ => .ok bytes
  | _ => .error .isADirectory

/-- The disk with an entry put at a place, or with the one there taken away. -/
def put (disk : Disk) (path : List String) (entry : Option Entry) : Disk :=
  { top := disk.top.set entry path, changes := disk.changes + 1 }

/-- The status of a file as the next change of the disk leaves it. -/
def nextStatus (disk : Disk) (mode : Nat) : FileStatus := ⟨mode, disk.changes + 1⟩

/-- The disk with those bytes in the file at a place, which keeps its permissions if it was there. -/
def fill (disk : Disk) (place : List String) (bytes : List UInt8) : Disk :=
  let mode := match disk.top.at? place with
    | some (.file _ status) => status.mode
    | _ => 0o644
  disk.put place (some (.file bytes (disk.nextStatus mode)))

/-- The place of a file at the end of a path that is there or can be made. -/
def filePlace? (disk : Disk) (path : String) : Except PathError (List String) :=
  match disk.locate path with
  | .ok (.taken _ (.dir _)) => .error .isADirectory
  | .ok (.taken place _) => .ok place
  | .ok (.vacant place) => if path.endsWith "/" then .error .isADirectory else .ok place
  | .error e => .error e

/-- The disk with a file of those bytes at the end of a path. -/
def write (disk : Disk) (path : String) (bytes : List UInt8) : Except PathError Disk :=
  (disk.filePlace? path).map (disk.fill · bytes)

/-- The disk with those bytes at the end of a file, which need not be there before. -/
def append (disk : Disk) (path : String) (bytes : List UInt8) : Except PathError Disk :=
  match disk.read path with
  | .ok held => disk.write path (held ++ bytes)
  | .error .notFound => disk.write path bytes
  | .error e => .error e

/-- The disk with a directory at the end of a path where nothing is yet. -/
def makeDir (disk : Disk) (path : String) : Except PathError Disk :=
  match disk.locate path with
  | .ok (.taken _ _) => .error .occupied
  | .ok (.vacant place) =>
    if (disk.locateItself path).toOption.any (fun p => match p with
      | .taken _ _ => true
      | .vacant _ => false) then .error .occupied
    else .ok (disk.put place (some (.dir [])))
  | .error e => .error e

/-- The disk with a directory at the end of each way along the names, those that are there being left. -/
def makeDirsAlong (base : String) : List String → Disk → Disk
  | [], disk => disk
  | name :: rest, disk =>
    let path := base ++ "/" ++ name
    makeDirsAlong path rest ((disk.makeDir path).toOption.getD disk)

/-- The disk with a directory at the end of a path from the top, and on the way there. -/
def makeDirs (disk : Disk) (path : String) : Disk := makeDirsAlong "" (splitPath path) disk

/-- The disk with a symbolic link at the end of a path where nothing is yet. -/
def makeLink (disk : Disk) (path target : String) : Disk :=
  match disk.locateItself path with
  | .ok (.vacant place) => disk.put place (some (.link target))
  | _ => disk

/-- The text of the entry of a listing as far as it can be read: the text of a file, or of the file a link leads to. -/
def textAt (disk : Disk) (path : List String) : String :=
  match disk.read ("/" ++ "/".intercalate path) with
  | .ok bytes => Utf8.decodeLossy bytes
  | .error _ => ""

/-- Every path below a directory, links not being followed, with nothing for a directory and the text for the rest. -/
def dump (disk : Disk) (directory : String) : List (String × Option String) :=
  match disk.locate directory with
  | .ok (.taken place entry) =>
    (entry.listing []).map fun (path, e) =>
      ("/".intercalate path, if e.isDir then none else some (disk.textAt (place ++ path)))
  | _ => []

/-- A disk with the directories that every system has, and nothing in them but the programs named. -/
def withPrograms (names : List String) : Disk :=
  let program (name : String) : String × Entry := (name, .file [] ⟨0o755, 0⟩)
  { top := .dir [("bin", .link "usr/bin"), ("dev", .dir [("null", .file [] ⟨0o666, 0⟩)]),
      ("etc", .dir [("passwd", .file [] .plain)]), ("home", .dir []), ("lib", .link "usr/lib"), ("opt", .dir []),
      ("proc", .dir []), ("root", .dir []), ("run", .dir []), ("sbin", .link "usr/sbin"), ("sys", .dir []),
      ("tmp", .dir []), ("usr", .dir [("bin", .dir (names.map program)), ("lib", .dir []), ("sbin", .dir [])]),
      ("var", .dir [("tmp", .dir [])])],
    changes := 0 }

end Disk

end GateRunner
