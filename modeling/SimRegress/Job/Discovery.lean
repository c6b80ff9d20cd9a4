import SimRegress.Job.Basic
import SimRegress.Tree.Outputs
import SimRegress.Decimal.Reading
import SimRegress.Text.Blank

/-!
Finding the examples below a root directory.

An example is a directory with a project file; which file it holds gives its kind, `Makefile`
first. Its labels are the words of its `labels` file, or `nightly` without one; the label
`willfail` lets it fail. Its reference duration is the number in `reference/time.dat`, unknown
when that cannot be read.

Each selection names a directory relative to the root, walked recursively in name order, where
hidden directories, reference directories and the scratch directories of model checks are
skipped; only a name that is text is looked at for that, so a directory whose name is not UTF-8
is walked. A selection starting with `^` drops the examples found so far below its directory.
Examples are given in path order, a directory compared component by component, and the id of an
example is its path below the root, each name as text with its ill-formed parts replaced.
-/

namespace SimRegress

/-- The kind of the example in a directory, if it is one. -/
def Tree.exampleKind (t : Tree) (dir : TreePath) : Option ExampleKind :=
  let has (name : String) := t.isFile (dir ++ [.text name])
  if has "Makefile" then some .compiled
  else if has "MBS.mbsimprj.xml" || has "MBS.mbsimprj.alpha_py.xml" then some .xml
  else if has "MBS.mbsimprj.flat.xml" then some .flatXml
  else if has "FMI.mbsimprj.xml" || has "FMI_cosim.mbsimprj.xml" then
    some (.fmiXml !(has "FMI.mbsimprj.xml"))
  else if has "Makefile_FMI" || has "Makefile_FMI_cosim" then
    some (.fmiSource !(has "Makefile_FMI"))
  else none

/-- Why examples could not be found. -/
inductive DiscoveryError where
  /-- A selected directory is not there. -/
  | notFound (path : TreePath)
  /-- A labels file is not text. -/
  | labels (path : TreePath) (fault : IoFault)
  deriving DecidableEq, Repr

def DiscoveryError.message : DiscoveryError → String
  | .notFound p => "Example directory not found: " ++ p.render
  | .labels p f => "Failed to read labels file: " ++ p.render ++ ": " ++ f.message

/-- The label of examples without a labels file. -/
def defaultLabel : String := "nightly"

def mayFailLabel : String := "willfail"

/-- The words of a text, split at white space. -/
def words (s : String) : List String :=
  ((s.toList.splitBy fun a b => Text.isWhite a == Text.isWhite b).filter
    fun w => !(w.all Text.isWhite)).map String.ofList

/-- The labels of an example. -/
def Tree.labels (t : Tree) (dir : TreePath) : Except DiscoveryError (List String) :=
  let p := dir ++ [.text "labels"]
  if t.isFile p then
    match t.readText p with
    | .ok text => .ok (words text)
    | .error f => .error (.labels p f)
  else .ok [defaultLabel]

/-- How long the reference run of an example took, if that can be read. -/
def Tree.referenceDuration (t : Tree) (dir : TreePath) : Option Duration :=
  match t.readText (dir ++ [.text referenceDirName, .text timeFileName]) with
  | .ok text => (Decimal.readFloat? (Text.trim text)).bind Duration.ofSeconds?
  | .error _ => none

/-- The id of an example: its path below the root, each name as text with its ill-formed parts
replaced, `.` for the root itself. An example outside the root keeps all its components, the
leading `/` as one of them. -/
def jobId (root dir : TreePath) : String :=
  if root.isPrefixOf dir then
    let rel := dir.drop root.length
    if rel.isEmpty then "." else "/".intercalate (rel.map OsName.lossy)
  else "/".intercalate ("/" :: dir.map OsName.lossy)

/-- The job of the example in a directory, if it is one. -/
def Tree.job? (t : Tree) (root dir : TreePath) : Except DiscoveryError (Option Job) := do
  match t.exampleKind dir with
  | none => pure none
  | some kind =>
    let labels ← t.labels dir
    pure (some
      { id := jobId root dir, path := dir, kind := kind,
        referenceDuration := t.referenceDuration dir,
        mayFail := labels.contains mayFailLabel, labels := labels })

/-- Whether the walk skips a directory of this name; one whose name is not text is walked. -/
def skippedDir (name : OsName) : Bool :=
  name.toStr?.any fun n => n.startsWith "." || n == "tmp_fmuCheck" || n == "tmp_mbsimTestFMU" ||
    n == referenceDirName

/-- The example directories below a directory, itself first, then its children in name order. -/
def Tree.exampleDirs (t : Tree) : Nat → TreePath → List TreePath
  | 0, _ => []
  | fuel + 1, dir =>
    let own := if (t.exampleKind dir).isSome then [dir] else []
    let children := ((t.children dir).filter fun n => !skippedDir n).map (dir ++ [·])
    own ++ (children.filter t.isDir).flatMap (t.exampleDirs fuel)

/-- Whether path `a` comes before path `b`, component by component. -/
def TreePath.lt : TreePath → TreePath → Bool
  | [], [] => false
  | [], _ :: _ => true
  | _ :: _, [] => false
  | x :: xs, y :: ys => x < y || (x == y && TreePath.lt xs ys)

/-- Inserts a job under its path, in path order, replacing one under the same path. -/
def insertJob (dir : TreePath) (j : Job) : List (TreePath × Job) → List (TreePath × Job)
  | [] => [(dir, j)]
  | (d, k) :: rest =>
    if dir == d then (dir, j) :: rest
    else if TreePath.lt dir d then (dir, j) :: (d, k) :: rest
    else (d, k) :: insertJob dir j rest

/-- Applies one selection to the jobs found so far. -/
def Tree.select (t : Tree) (root : TreePath) (found : List (TreePath × Job)) (selection : String) :
    Except DiscoveryError (List (TreePath × Job)) := do
  let (remove, rel) :=
    if selection.startsWith "^" then (true, String.ofList (selection.toList.drop 1))
    else (false, selection)
  let base := root.join rel
  if !t.isDir base then throw (.notFound base)
  if remove then return found.filter fun (d, _) => !base.isPrefixOf d
  (t.exampleDirs (t.dirs.length + 1) base).foldlM (fun acc dir => do
    match ← t.job? root dir with
    | some j => pure (insertJob dir j acc)
    | none => pure acc) found

/-- The examples the selections name, in path order; no selection names the whole root. -/
def Tree.discover (t : Tree) (root : TreePath) (selections : List String) :
    Except DiscoveryError (List Job) := do
  let selections := if selections.isEmpty then ["."] else selections
  let found ← selections.foldlM (t.select root) []
  pure (found.map (·.2))

end SimRegress
