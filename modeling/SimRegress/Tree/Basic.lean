import SimRegress.Text.Utf8

/-!
A directory tree as a value: files with their bytes, and directories.

A path is the list of its components below the root of the file system. The name of a component
is what the file system gives: bytes, most often UTF-8 text, which is seen as text where it is
UTF-8 (`toStr?`) and otherwise with each ill-formed part replaced (`lossy`); names are ordered
by their bytes. The tree keeps every directory that holds something, the root included, so a
directory stays when its last file is removed. The operations answer as a file system does:
reading a directory, removing one as if it were a file, or writing below a file fail with the
usual fault.

Paths are written with `/` in front of every component; paths given as text are read the way
a path joins onto a directory: an absolute path replaces it, `.` and empty components are
dropped, and `..` goes up, never above the root.
-/

namespace SimRegress

/-- The name of an entry of a directory. A name that is UTF-8 is held as its text, and only one
that is not as its bytes, so each name has one form. -/
inductive OsName where
  | text (s : String)
  | bytes (b : List UInt8) (notText : Text.decodeStrict? b = none)
  deriving DecidableEq, Repr

attribute [coe] OsName.text

instance : Coe String OsName := ⟨OsName.text⟩

/-- The name as text, if it is UTF-8. -/
def OsName.toStr? : OsName → Option String
  | .text s => some s
  | .bytes _ _ => none

/-- The name as text, each ill-formed part of its bytes a replacement character. -/
def OsName.lossy : OsName → String
  | .text s => s
  | .bytes b _ => Text.decodeLossy b

/-- The bytes of a name. -/
def OsName.toBytes : OsName → List UInt8
  | .text s => s.toList.flatMap String.utf8EncodeChar
  | .bytes b _ => b

instance : LT OsName := ⟨fun a b => a.toBytes < b.toBytes⟩

instance : LE OsName := ⟨fun a b => a.toBytes ≤ b.toBytes⟩

instance (a b : OsName) : Decidable (a < b) := inferInstanceAs (Decidable (a.toBytes < b.toBytes))

instance (a b : OsName) : Decidable (a ≤ b) := inferInstanceAs (Decidable (a.toBytes ≤ b.toBytes))

/-- A path: its components below the root of the file system. -/
abbrev TreePath := List OsName

/-- The text of a path. -/
def TreePath.render (p : TreePath) : String :=
  if p.isEmpty then "/" else String.join (p.map ("/" ++ ·.lossy))

/-- The last component of a path. -/
def TreePath.name (p : TreePath) : OsName := p.getLastD (.text "")

/-- The directory that holds a path. -/
def TreePath.parent (p : TreePath) : TreePath := p.dropLast

/-- Applies the components of a relative path, given as text, to a path. -/
def TreePath.walk (base : TreePath) (comps : List String) : TreePath :=
  comps.foldl (fun p c =>
    if c.isEmpty || c == "." then p
    else if c == ".." then p.dropLast
    else p ++ [.text c]) base

/-- The path a text names when it is joined onto `base`. -/
def TreePath.join (base : TreePath) (text : String) : TreePath :=
  if text.startsWith "/" then TreePath.walk [] (text.splitOn "/")
  else TreePath.walk base (text.splitOn "/")

/-- Why a file system operation failed. -/
inductive IoFault where
  | notFound
  | isDirectory
  | notDirectory
  | alreadyExists
  | invalidText
  deriving DecidableEq, Repr

def IoFault.message : IoFault → String
  | .notFound => "No such file or directory (os error 2)"
  | .isDirectory => "Is a directory (os error 21)"
  | .notDirectory => "Not a directory (os error 20)"
  | .alreadyExists => "File exists (os error 17)"
  | .invalidText => "stream did not contain valid UTF-8"

/-- Files with their bytes and the directories that hold them. -/
structure Tree where
  files : List (TreePath × List UInt8) := []
  /-- Every directory, ancestors of files included, the root left out. -/
  dirs : List TreePath := []

/-- The bytes of the file at a path. -/
def Tree.file? (t : Tree) (p : TreePath) : Option (List UInt8) := t.files.lookup p

/-- Whether a file is at a path. -/
def Tree.isFile (t : Tree) (p : TreePath) : Bool := (t.file? p).isSome

/-- Whether a directory is at a path. -/
def Tree.isDir (t : Tree) (p : TreePath) : Bool := p.isEmpty || t.dirs.contains p

/-- Whether anything is at a path. -/
def Tree.exists (t : Tree) (p : TreePath) : Bool := t.isFile p || t.isDir p

/-- The paths of the directories from the top down to `p`, `p` included, the root left out. -/
def ancestry (p : TreePath) : List TreePath :=
  (List.range p.length).map fun i => p.take (i + 1)

/-- Adds directories the tree does not have yet. -/
def Tree.addDirs (t : Tree) (ds : List TreePath) : Tree :=
  { t with dirs := ds.foldl (fun acc d => if acc.contains d then acc else acc ++ [d]) t.dirs }

/-- The names of the entries directly in a directory, in order. -/
def Tree.children (t : Tree) (dir : TreePath) : List OsName :=
  let below (p : TreePath) : Option OsName :=
    if p.length == dir.length + 1 && dir.isPrefixOf p then some p.name else none
  let names := t.files.filterMap (below ·.1) ++ t.dirs.filterMap below
  (names.foldl (fun acc n => if acc.contains n then acc else acc ++ [n]) []).mergeSort
    (fun a b => decide (a ≤ b))

/-- The bytes of a file. -/
def Tree.read (t : Tree) (p : TreePath) : Except IoFault (List UInt8) :=
  match t.file? p with
  | some bytes => .ok bytes
  | none => .error (if t.isDir p then .isDirectory else .notFound)

/-- The text of a file, which must be UTF-8. -/
def Tree.readText (t : Tree) (p : TreePath) : Except IoFault String := do
  match Text.decodeStrict? (← t.read p) with
  | some s => pure s
  | none => .error .invalidText

/-- Removes a file. -/
def Tree.removeFile (t : Tree) (p : TreePath) : Except IoFault Tree :=
  if t.isFile p then .ok { t with files := t.files.filter (·.1 != p) }
  else if t.isDir p then .error .isDirectory
  else .error .notFound

/-- Whether some proper ancestor of a path is a file. -/
def Tree.underFile (t : Tree) (p : TreePath) : Bool :=
  (ancestry p.parent).any t.isFile

/-- Creates a directory and those above it that are missing. -/
def Tree.createDirAll (t : Tree) (p : TreePath) : Except IoFault Tree :=
  if t.isDir p then .ok t
  else if t.isFile p then .error .alreadyExists
  else if t.underFile p then .error .notDirectory
  else .ok (t.addDirs (ancestry p))

/-- Writes a file, replacing one that is there; its directory must exist. -/
def Tree.write (t : Tree) (p : TreePath) (bytes : List UInt8) : Except IoFault Tree :=
  if t.isDir p then .error .isDirectory
  else if t.underFile p then .error .notDirectory
  else if !t.isDir p.parent then .error .notFound
  else .ok { t with files := (t.files.filter (·.1 != p)) ++ [(p, bytes)] }

end SimRegress
