import SimRegress.Dataset.Document

/-!
What a comparison finds.

Every column of a dataset present on both sides gets a verdict on its data and a flag for a
label that differs; a column counts as one failure, however many ways it failed. Datasets and
files present on one side only are failures of their own. Each failure within the cap comes
with an artifact: the time and value pairs of both sides, for a plot.
-/

namespace SimRegress

/-- The verdict on the data of one column. -/
inductive ColumnVerdict where
  | passed
  /-- At least one sample violates the tolerance. -/
  | toleranceViolation (firstIndex violations : Nat) (maxAbsDiff : Float)
  /-- Both sides have data, but not the same number of rows. -/
  | rowCountMismatch (referenceRows currentRows : Nat)
  /-- The current dataset has fewer columns. -/
  | missingColumn
  /-- The current dataset has a column more. -/
  | extraColumn
  /-- One side has no rows: compared, but no failure. -/
  | noData

/-- The verdict is a failure. -/
def ColumnVerdict.isFailure : ColumnVerdict → Bool
  | .passed => false
  | .noData => false
  | _ => true

/-- The verdict is about data that both sides have, so there is something to plot. -/
def ColumnVerdict.plottable : ColumnVerdict → Bool
  | .toleranceViolation .. => true
  | .rowCountMismatch .. => true
  | _ => false

/-- The result of one column. -/
structure ColumnResult where
  index : Nat
  referenceLabel : Option String
  currentLabel : Option String
  /-- The labels at this index differ. -/
  labelMismatch : Bool
  verdict : ColumnVerdict
  /-- An artifact was made for the column. -/
  hasArtifact : Bool

/-- The column counts as a failure. -/
def ColumnResult.failed (r : ColumnResult) : Bool := r.labelMismatch || r.verdict.isFailure

/-- The verdict on one dataset. -/
inductive DatasetVerdict where
  | compared (columns : List ColumnResult)
  /-- Only the reference has it. -/
  | missingInCurrent
  /-- Only the current output has it. -/
  | missingInReference

/-- The result of one dataset. -/
structure DatasetResult where
  file : String
  dataset : String
  verdict : DatasetVerdict

/-- Why a file failed. -/
inductive FileVerdict where
  | missingInCurrent
  | missingInReference
  deriving DecidableEq

/-- The result of a file present on one side only. -/
structure FileResult where
  file : String
  verdict : FileVerdict

/-- The time and value pairs of a failed column on both sides; time is column 0. -/
structure Artifact where
  file : String
  dataset : String
  column : Nat
  label : Option String
  reference : List (Float × Float)
  current : List (Float × Float)

/-- What a comparison found. -/
structure Outcome where
  /-- Columns compared, plus datasets and files present on one side only. -/
  compared : Nat := 0
  /-- Failures, counted exactly, also beyond the cap. -/
  failed : Nat := 0
  files : List FileResult := []
  datasets : List DatasetResult := []
  /-- Artifacts of the failures within the cap. -/
  artifacts : List Artifact := []

/-- The comparison passed. -/
def Outcome.passed (o : Outcome) : Bool := o.failed == 0

end SimRegress
