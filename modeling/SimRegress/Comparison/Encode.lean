import SimRegress.Comparison.Engine

/-!
Comparison results as JSON.

`Outcome.toJson` gives the whole outcome, verdicts tagged by a `kind` in lower case with dashes;
a float that is not finite is written as in dataset documents, as the string `NaN`, `inf` or
`-inf`. `Artifact.fileText` is the text of an artifact file: compact, its fields in a fixed
order, and a float that is not finite written `null`. The artifacts of one comparison go to the
files `diff_001.json`, `diff_002.json`, and so on.
-/

namespace SimRegress

open Json

def labelJson : Option String → Value
  | some s => .str s
  | none => .null

def natJson (n : Nat) : Value := .num (.nat n)

def ColumnVerdict.toJson : ColumnVerdict → Value
  | .passed => .obj [("kind", .str "passed")]
  | .toleranceViolation first count largest =>
    .obj [("kind", .str "tolerance-violation"), ("first_index", natJson first),
      ("violations", natJson count), ("max_abs_diff", sampleJson largest)]
  | .rowCountMismatch r c =>
    .obj [("kind", .str "row-count-mismatch"), ("reference_rows", natJson r),
      ("current_rows", natJson c)]
  | .missingColumn => .obj [("kind", .str "missing-column")]
  | .extraColumn => .obj [("kind", .str "extra-column")]
  | .noData => .obj [("kind", .str "no-data")]

def ColumnResult.toJson (r : ColumnResult) : Value :=
  .obj [("index", natJson r.index), ("reference_label", labelJson r.referenceLabel),
    ("current_label", labelJson r.currentLabel), ("label_mismatch", .bool r.labelMismatch),
    ("verdict", r.verdict.toJson), ("has_artifact", .bool r.hasArtifact),
    ("failed", .bool r.failed)]

def DatasetResult.toJson (r : DatasetResult) : Value :=
  let verdict : Value := match r.verdict with
    | .compared columns => .obj [("kind", .str "compared"), ("columns", .arr (columns.map (·.toJson)))]
    | .missingInCurrent => .obj [("kind", .str "missing-in-current")]
    | .missingInReference => .obj [("kind", .str "missing-in-reference")]
  .obj [("file", .str r.file), ("dataset", .str r.dataset), ("verdict", verdict)]

def FileVerdict.name : FileVerdict → String
  | .missingInCurrent => "missing-in-current"
  | .missingInReference => "missing-in-reference"

def FileResult.toJson (r : FileResult) : Value :=
  .obj [("file", .str r.file), ("verdict", .str r.verdict.name)]

/-- Time and value pairs, each written with `num`. -/
def pairsJson (num : Float → Value) (ps : List (Float × Float)) : Value :=
  .arr (ps.map fun (t, v) => .arr [num t, num v])

/-- The JSON of an artifact, its floats written with `num`. -/
def Artifact.json (num : Float → Value) (a : Artifact) : Value :=
  .obj [("file", .str a.file), ("dataset", .str a.dataset), ("column", natJson a.column),
    ("label", labelJson a.label), ("reference", pairsJson num a.reference),
    ("current", pairsJson num a.current)]

/-- The JSON of an outcome. -/
def Outcome.toJson (o : Outcome) : Value :=
  .obj [("compared", natJson o.compared), ("failed", natJson o.failed),
    ("passed", .bool o.passed), ("files", .arr (o.files.map (·.toJson))),
    ("datasets", .arr (o.datasets.map (·.toJson))),
    ("artifacts", .arr (o.artifacts.map (Artifact.json sampleJson)))]

/-- The text of an artifact file. -/
def Artifact.fileText (a : Artifact) : String :=
  (a.json fun x => .num (.float x)).compact

def pad3 (n : Nat) : String :=
  let s := Decimal.digitsText n
  String.ofList (List.replicate (3 - s.length) '0') ++ s

/-- The file names and texts of the artifacts of one comparison. -/
def artifactFiles (artifacts : List Artifact) : List (String × String) :=
  ((List.range artifacts.length).zip artifacts).map fun (i, a) =>
    ("diff_" ++ pad3 (i + 1) ++ ".json", a.fileText)

end SimRegress
