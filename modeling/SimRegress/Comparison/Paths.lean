import SimRegress.Tree.Load
import SimRegress.Report.Locale

/-!
Comparing two paths of a tree: two directories file by file, or two files as documents.

Two directories compare their dataset files; two files compare their datasets under the name of
the current file. A file and a directory cannot be compared. A path that is not there counts as
a file, so reading it fails.
-/

namespace SimRegress

/-- Why two paths could not be compared. -/
inductive ComparePathsError where
  /-- A document could not be read. -/
  | data (e : DatasetError)
  /-- One path is a directory and the other is not. -/
  | mixed (reference current : TreePath)
  deriving DecidableEq, Repr

/-- The text of the error, every cause after the one it explains; the reason of a mix of a file
and a directory is in the language `l`. -/
def ComparePathsError.message (l : Locale) : ComparePathsError → String
  | .data e => e.chain
  | .mixed r c => l.mixedInputs ++ ": Cannot compare a file with a directory: " ++ r.render ++
    " vs " ++ c.render

/-- Compares two files or two directories. -/
def Comparator.comparePaths (cmp : Comparator) (t : Tree) (reference current : TreePath)
    (suffix : String) : Except ComparePathsError Outcome :=
  match t.isDir reference, t.isDir current with
  | true, true => do
    let r ← (t.loadStore reference suffix).mapError .data
    let c ← (t.loadStore current suffix).mapError .data
    pure (cmp.compareStores r c)
  | false, false => do
    let r ← (t.loadCollection reference).mapError .data
    let c ← (t.loadCollection current).mapError .data
    pure (cmp.compare current.name.lossy r c)
  | _, _ => .error (.mixed reference current)

end SimRegress
