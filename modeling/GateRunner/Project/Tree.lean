/-!
# Directory trees

What a disk holds: files with their bytes, directories with named entries, and symbolic links with their target as a
text. A path here is a list of names from the top; links are not followed in this module.
-/

namespace GateRunner

/-- What is kept about a file beside its bytes: its permission bits, and a number that grows with each change made on
the disk. -/
structure FileStatus where
  mode : Nat
  stamp : Nat
deriving DecidableEq, Repr, Inhabited

/-- A file that its owner may write and everyone may read, made before anything was changed. -/
def FileStatus.plain : FileStatus := ⟨0o644, 0⟩

/-- Whether the file may be run as a program. -/
def FileStatus.isExecutable (s : FileStatus) : Bool := s.mode &&& 0o111 ≠ 0

/-- An entry of a directory. -/
inductive Entry
  | file (bytes : List UInt8) (status : FileStatus)
  | dir (entries : List (String × Entry))
  | link (target : String)
deriving Inhabited

namespace Entry

/-- Whether the entry is a directory. -/
def isDir : Entry → Bool
  | .dir _ => true
  | _ => false

/-- Whether the entry is a symbolic link. -/
def isLink : Entry → Bool
  | .link _ => true
  | _ => false

/-- Whether the entry is a file. -/
def isFile : Entry → Bool
  | .file _ _ => true
  | _ => false

/-- The entries of a directory, none for anything else. -/
def children : Entry → List (String × Entry)
  | .dir entries => entries
  | _ => []

/-- The entry at a path below this one. -/
def at? : Entry → List String → Option Entry
  | e, [] => some e
  | .dir entries, name :: rest =>
    match entries.lookup name with
    | some e => e.at? rest
    | none => none
  | _, _ :: _ => none

/-- A name bound in a list of entries, in the place of what it named before. -/
def bind (name : String) (entry : Entry) : List (String × Entry) → List (String × Entry)
  | [] => [(name, entry)]
  | (other, held) :: rest => if other = name then (name, entry) :: rest else (other, held) :: bind name entry rest

/-- The entry with the one at a path put there, or taken away. A path through anything but directories that are there
changes nothing. -/
def set (put : Option Entry) : List String → Entry → Entry
  | [], e => put.getD e
  | [name], .dir entries =>
    match put with
    | some new => .dir (bind name new entries)
    | none => .dir (entries.filter (fun e => e.1 ≠ name))
  | name :: rest, .dir entries =>
    match entries.lookup name with
    | some e => .dir (bind name (set put rest e) entries)
    | none => .dir entries
  | _, e => e

mutual

/-- Every path below an entry, with what is there. -/
def listing (above : List String) : Entry → List (List String × Entry)
  | .dir entries => listings above entries
  | _ => []

/-- Every path at or below named entries, with what is there. -/
def listings (above : List String) : List (String × Entry) → List (List String × Entry)
  | [] => []
  | (name, e) :: rest => (above ++ [name], e) :: listing (above ++ [name]) e ++ listings above rest

end

end Entry

end GateRunner
