import SimRegress.Comparison.Outcome
import SimRegress.Comparison.Tolerance

/-!
Comparing simulation output with its reference.

Datasets are matched by name and compared column by column, by position. The datasets of the
reference come first, in name order, each compared or reported missing in place; then the
datasets only the current output has. Within a dataset the reference's columns come first,
then the current output's extra columns. For whole directories, the files of the reference come
first in name order, then the files only the current output has.

Every item compared is counted, and every failure too; the first `maxFailures` failures (all of
them when it is zero) get an artifact if they concern data on both sides.
-/

namespace SimRegress

/-- A comparison with fixed tolerances and a cap on artifacts; a cap of zero means none. -/
structure Comparator where
  tolerance : Tolerance
  maxFailures : Nat

/-- Counts one compared item; for a failure, tells whether it is within the cap. -/
def Comparator.record (cmp : Comparator) (o : Outcome) (failed : Bool) : Outcome × Bool :=
  let o := { o with compared := o.compared + 1 }
  if failed then
    let o := { o with failed := o.failed + 1 }
    (o, cmp.maxFailures == 0 || o.failed ≤ cmp.maxFailures)
  else (o, false)

/-- Scans the sample pairs of a column from row `row` on: the first violating row, the number
of violations, and the largest difference, infinite for a violating pair that is not finite. -/
def scanPairs (t : Tolerance) : Nat → List (Float × Float) → Option Nat × Nat × Float →
    Option Nat × Nat × Float
  | _, [], acc => acc
  | row, (r, c) :: rest, (first, count, largest) =>
    if t.violates r c then
      let diff := if r.isFinite && c.isFinite then (c - r).abs else Decimal.infinity
      scanPairs t (row + 1) rest
        (first.orElse fun _ => some row, count + 1, if diff > largest then diff else largest)
    else scanPairs t (row + 1) rest (first, count, largest)

/-- The verdict on column `k` of two datasets that both have it. -/
def columnVerdict (t : Tolerance) (reference current : Dataset) (k : Nat) : ColumnVerdict :=
  if reference.rows == 0 || current.rows == 0 then .noData
  else if reference.rows != current.rows then .rowCountMismatch reference.rows current.rows
  else
    match scanPairs t 0 ((reference.column k).zip (current.column k)) (none, 0, 0.0) with
    | (none, _, _) => .passed
    | (some first, count, largest) => .toleranceViolation first count largest

/-- The time and value pairs of a column. -/
def Dataset.series (d : Dataset) (k : Nat) : List (Float × Float) := (d.column 0).zip (d.column k)

/-- The artifact of a failed column. -/
def Artifact.of (file dataset : String) (k : Nat) (reference current : Dataset) : Artifact :=
  ⟨file, dataset, k, reference.label k, reference.series k, current.series k⟩

/-- Compares the reference's column `k` with the current output's. -/
def Comparator.referenceColumn (cmp : Comparator) (file name : String) (reference current : Dataset)
    (o : Outcome) (k : Nat) : Outcome × ColumnResult :=
  let rl := reference.label k
  let cl := current.label k
  let present := k < current.columns
  let verdict := if present then columnVerdict cmp.tolerance reference current k else .missingColumn
  let result : ColumnResult := ⟨k, rl, cl, present && rl != cl, verdict, false⟩
  let (o, withinCap) := cmp.record o result.failed
  if withinCap && verdict.plottable then
    ({ o with artifacts := o.artifacts ++ [Artifact.of file name k reference current] },
      { result with hasArtifact := true })
  else (o, result)

/-- A column only the current output has. -/
def Comparator.extraColumn (cmp : Comparator) (current : Dataset) (o : Outcome) (k : Nat) :
    Outcome × ColumnResult :=
  ((cmp.record o true).1, ⟨k, none, current.label k, false, .extraColumn, false⟩)

/-- Runs a step over indices, collecting its results. -/
def collectOver (step : Outcome → Nat → Outcome × ColumnResult) (o : Outcome) (ks : List Nat) :
    Outcome × List ColumnResult :=
  ks.foldl (fun (acc : Outcome × List ColumnResult) k =>
    let (o, r) := step acc.1 k
    (o, acc.2 ++ [r])) (o, [])

/-- Compares two datasets column by column. -/
def Comparator.compareDatasets (cmp : Comparator) (file name : String)
    (reference current : Dataset) (o : Outcome) : Outcome × List ColumnResult :=
  let (o, own) := collectOver (cmp.referenceColumn file name reference current) o
    (List.range reference.columns)
  let (o, extra) := collectOver (cmp.extraColumn current) o
    ((List.range current.columns).drop reference.columns)
  (o, own ++ extra)

/-- Records a dataset present on one side only. -/
def Comparator.datasetFailure (cmp : Comparator) (o : Outcome) (file name : String)
    (verdict : DatasetVerdict) : Outcome :=
  let o := (cmp.record o true).1
  { o with datasets := o.datasets ++ [⟨file, name, verdict⟩] }

/-- Compares two collections as if both came from the file `file`. -/
def Comparator.compareCollections (cmp : Comparator) (file : String)
    (reference current : Collection) (o : Outcome) : Outcome :=
  let o := reference.entries.foldl (fun o (name, rd) =>
    match current.get? name with
    | some cd =>
      let (o, columns) := cmp.compareDatasets file name rd cd o
      { o with datasets := o.datasets ++ [⟨file, name, .compared columns⟩] }
    | none => cmp.datasetFailure o file name .missingInCurrent) o
  current.names.foldl (fun o name =>
    match reference.get? name with
    | some _ => o
    | none => cmp.datasetFailure o file name .missingInReference) o

/-- Compares two collections from a file named `file`. -/
def Comparator.compare (cmp : Comparator) (file : String) (reference current : Collection) :
    Outcome :=
  cmp.compareCollections file reference current {}

/-- The dataset files of a directory, by file name in order. -/
structure Store where
  files : List (String × Collection) := []

/-- Inserts a file. -/
def Store.insert (s : Store) (name : String) (c : Collection) : Store :=
  ⟨insertByName name c s.files⟩

/-- The collection of a file. -/
def Store.get? (s : Store) (name : String) : Option Collection := s.files.lookup name

/-- Records a file present on one side only. -/
def Comparator.fileFailure (cmp : Comparator) (o : Outcome) (file : String) (verdict : FileVerdict) :
    Outcome :=
  let o := (cmp.record o true).1
  { o with files := o.files ++ [⟨file, verdict⟩] }

/-- Compares all files of two directories; the cap spans all of them. -/
def Comparator.compareStores (cmp : Comparator) (reference current : Store) : Outcome :=
  let o := reference.files.foldl (fun o (file, rc) =>
    match current.get? file with
    | some cc => cmp.compareCollections file rc cc o
    | none => cmp.fileFailure o file .missingInCurrent) {}
  current.files.foldl (fun o (file, _) =>
    match reference.get? file with
    | some _ => o
    | none => cmp.fileFailure o file .missingInReference) o

end SimRegress
