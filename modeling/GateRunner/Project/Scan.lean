import GateRunner.Project.Disk
import GateRunner.Text.Lines
import GateRunner.Check.Extent

/-!
# Scanning a project

A scan goes through the tree below a root and looks at regular files by the extension of their names. Links are not
followed, apart from the root itself, and directories whose names stand in `skippedDirectories` are left out with all
that is in them; the root's own name is not looked at.
-/

namespace GateRunner

/-- The names of the directories that no scan goes into. -/
def skippedDirectories : List String :=
  [".git", ".hg", ".svn", ".venv", "venv", "node_modules", "__pycache__", "target", "dist", "build", ".tox",
    ".mypy_cache", ".pytest_cache", ".ruff_cache"]

/-- A regular file as a scan sees it: the names on the way to it from the root, its own the last, and its bytes. -/
structure SourceFile where
  path : List String
  bytes : List UInt8
deriving DecidableEq, Repr

namespace SourceFile

/-- The extension of a name: what follows its last point, where something stands before that point. -/
def extensionOf (name : String) : Option String :=
  let (after, before) := name.toList.reverse.span (· ≠ '.')
  match before with
  | [] | ['.'] => none
  | _ => if name = ".." then none else some (String.ofList after.reverse)

/-- The file's own name. -/
def name (f : SourceFile) : String := f.path.getLast?.getD ""

/-- Whether the file's extension is one of those. -/
def hasExtension (extensions : List String) (f : SourceFile) : Bool :=
  match extensionOf f.name with
  | some e => e ∈ extensions
  | none => false

/-- What reading the file gives: its text, if the way to it opens and it is text. -/
def text? (opens : List String → Bool) (f : SourceFile) : Option (List Char) :=
  if opens f.path then Utf8.decode? f.bytes else none

/-- The file's lines, none if it cannot be read. -/
def lines (opens : List String → Bool) (f : SourceFile) : Nat :=
  match f.text? opens with
  | some text => lineCount text
  | none => 0

/-- The file as an extent. -/
def extent (opens : List String → Bool) (f : SourceFile) : Extent := ⟨1, f.lines opens⟩

end SourceFile

mutual

/-- The regular files below an entry, skipped directories left out. -/
def Entry.sources (above : List String) : Entry → List SourceFile
  | .dir entries => sourcesAmong above entries
  | _ => []

/-- The regular files at or below named entries, skipped directories left out. -/
def sourcesAmong (above : List String) : List (String × Entry) → List SourceFile
  | [] => []
  | (name, .file bytes _) :: rest => ⟨above ++ [name], bytes⟩ :: sourcesAmong above rest
  | (_, .link _) :: rest => sourcesAmong above rest
  | (name, .dir entries) :: rest =>
    if name ∈ skippedDirectories then sourcesAmong above rest
    else (Entry.dir entries).sources (above ++ [name]) ++ sourcesAmong above rest

end

/-- The files with one of the extensions, as one extent. -/
def measure (opens : List String → Bool) (extensions : List String) (files : List SourceFile) : Extent :=
  (files.filter (·.hasExtension extensions)).foldl (fun total f => total + f.extent opens) .zero

/-- Whether a file has one of the extensions. -/
def anyWithExtension (extensions : List String) (files : List SourceFile) : Bool :=
  files.any (·.hasExtension extensions)

/-- A project: a disk and the path of the directory that checks work in. -/
structure Project where
  disk : Disk
  root : String
deriving Inhabited

namespace Project

/-- Whether a path from the root leads to anything. -/
def holds (p : Project) (name : String) : Bool := p.disk.pathExists (joinPath p.root name)

/-- The first of some paths from the root that leads to anything. -/
def firstPresent (p : Project) (names : List String) : Option String := names.find? p.holds

/-- The files of a scan. A root that is a file is the only one; a root that is a link counts only as a directory. -/
def sources (p : Project) : List SourceFile :=
  match p.disk.locateItself p.root with
  | .ok (.taken _ (.link _)) =>
    match p.disk.entry? p.root with
    | .ok entry => entry.sources []
    | .error _ => []
  | .ok (.taken _ (.file bytes _)) => [⟨[baseName p.root], bytes⟩]
  | .ok (.taken _ entry) => entry.sources []
  | _ => []

/-- Whether a file of the project has one of the extensions. -/
def hasSources (p : Project) (extensions : List String) : Bool := anyWithExtension extensions p.sources

/-- The files of the project with one of the extensions, as one extent, where some ways may not open. -/
def measureReading (p : Project) (opens : List String → Bool) (extensions : List String) : Extent :=
  measure opens extensions p.sources

/-- The files of the project with one of the extensions, as one extent. Every file of a disk can be read. -/
def measureSources (p : Project) (extensions : List String) : Extent := p.measureReading (fun _ => true) extensions

/-- Whether the project is one in Python. -/
def isPython (p : Project) : Bool :=
  (p.firstPresent ["pyproject.toml", "setup.py", "setup.cfg", "requirements.txt"]).isSome
    || p.hasSources ["py"]

/-- Whether the project is one in JavaScript or TypeScript. -/
def isJavaScript (p : Project) : Bool := p.holds "package.json" || p.hasSources ["js", "ts"]

/-- Whether the project is one in Rust. -/
def isRust (p : Project) : Bool := p.holds "Cargo.toml"

end Project

end GateRunner
