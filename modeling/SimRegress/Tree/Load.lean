import SimRegress.Tree.Outputs
import SimRegress.Dataset.Document
import SimRegress.Comparison.Engine

/-!
Loading dataset documents from a tree: one file as a collection, or the dataset files of a
directory as a store keyed by file name. A file that cannot be read as text fails with its
path; the first file, in name order, that fails fails the store.
-/

namespace SimRegress

/-- The collection in a dataset file. -/
def Tree.loadCollection (t : Tree) (p : TreePath) : Except DatasetError Collection := do
  let text ← (t.readText p).mapError fun f => .io p.render f.message
  Collection.parse text p.render

/-- The dataset files of a directory, by file name; a directory that is not there has none. -/
def Tree.loadStore (t : Tree) (dir : TreePath) (suffix : String) : Except DatasetError Store :=
  (t.filesWithSuffix dir suffix).foldlM (fun (s : Store) p => do
    pure (s.insert p.name.lossy (← t.loadCollection p))) {}

end SimRegress
