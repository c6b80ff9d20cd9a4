import SimRegress.Tree.Basic

/-!
The outputs of an example directory: its dataset files, named by a suffix, and `time.dat`, the
seconds its last run took.

Dataset files are the regular files directly in the directory whose name is text ending with the
suffix, in name order; a directory that is not there has none. Cleaning removes `time.dat` and the
dataset files; promoting copies them into the `reference` directory, which it creates, over
what is there.
-/

namespace SimRegress

/-- The name of the directory of an example's reference data. -/
def referenceDirName : String := "reference"

/-- The name of the file with the seconds a run took. -/
def timeFileName : String := "time.dat"

/-- Why an operation on example outputs failed. -/
inductive FsError where
  | remove (path : TreePath) (fault : IoFault)
  | createDir (path : TreePath) (fault : IoFault)
  | copy (path : TreePath) (reason : String)
  deriving DecidableEq, Repr

/-- The text of the error, the cause after the step that failed. -/
def FsError.message : FsError → String
  | .remove p f => "Failed to remove " ++ p.render ++ ": " ++ f.message
  | .createDir p f => "Failed to create directory: " ++ p.render ++ ": " ++ f.message
  | .copy p r => "Failed to copy " ++ p.render ++ " to reference: " ++ r

/-- The dataset files of a directory, in name order. -/
def Tree.filesWithSuffix (t : Tree) (dir : TreePath) (suffix : String) : List TreePath :=
  if t.isDir dir then
    (((t.children dir).filter (·.toStr?.any (·.endsWith suffix))).map (dir ++ [·])).filter t.isFile
  else []

/-- Removes `time.dat` and the dataset files of a directory. -/
def Tree.cleanOutputs (t : Tree) (dir : TreePath) (suffix : String) : Except FsError Tree := do
  let time := dir ++ [.text timeFileName]
  let t ← if t.exists time then (t.removeFile time).mapError (.remove time) else pure t
  (t.filesWithSuffix dir suffix).foldlM (fun t f => (t.removeFile f).mapError (.remove f)) t

/-- The text of a copy that the file system refused. -/
def copyRefused : String := "Io error. Look inside err_kind for more details."

/-- Copies a file over another; a directory in the way fails as an input/output error. -/
def Tree.copyFile (t : Tree) (src dst : TreePath) : Except FsError Tree := do
  let bytes ← (t.read src).mapError fun f => .copy src f.message
  (t.write dst bytes).mapError fun _ => .copy src copyRefused

/-- Copies the dataset files and `time.dat` of a directory into its reference directory;
gives the number of files copied. -/
def Tree.copyToReference (t : Tree) (dir : TreePath) (suffix : String) :
    Except FsError (Tree × Nat) := do
  let reference := dir ++ [.text referenceDirName]
  let t ← (t.createDirAll reference).mapError (.createDir reference)
  let time := dir ++ [.text timeFileName]
  let sources := t.filesWithSuffix dir suffix ++ (if t.isFile time then [time] else [])
  let t ← sources.foldlM (fun t src => t.copyFile src (reference ++ [src.name])) t
  pure (t, sources.length)

end SimRegress
