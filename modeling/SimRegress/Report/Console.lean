import SimRegress.Run.Outcome
import SimRegress.Job.Progress
import SimRegress.Text.Escaped
import SimRegress.Text.Blank

/-!
The texts a run prints on the console: a line per finished job, the summary table, the details
of unexpected failures, and the failed items of a comparison.

Columns are padded by characters. Durations have two places in the largest unit they reach, a
largest difference is written in scientific notation with the fewest digits that read back, and
a job's output is cut to its last forty lines.
-/

namespace SimRegress

/-- Pads a text with blanks on the right to `width` characters. -/
def padRight (s : String) (width : Nat) : String :=
  s ++ String.ofList (List.replicate (width - s.length) ' ')

/-- Pads a text with blanks on the left to `width` characters. -/
def padLeft (s : String) (width : Nat) : String :=
  String.ofList (List.replicate (width - s.length) ' ') ++ s

/-- Numbers in scientific notation: one leading digit, the fewest digits that read back, and an
exponent with a sign only when it is negative. -/
def scientificStyle : Decimal.Style where
  plainFrom := 1
  plainBelow := 0
  pointZero := false
  expPlus := false
  tie := .up
  nan := "NaN"
  inf := "inf"

/-- The line printed after a job finished. -/
def completionLine (l : Locale) (p : Progress) (o : JobOutcome) : String :=
  let width := max (Decimal.digitsText p.total).length 3
  l.finishedExample (padDigits p.finished width) (padDigits p.total width)
    (Decimal.fixed 1 p.percent) (etaText p.eta) o.job.id (o.status l) ++ "\n"

def comparisonNote (l : Locale) (o : JobOutcome) : String :=
  match o.report.map (fun r : JobReport => r.comparison) with
  | some (.compared c) =>
    if c.failed > 0 then " (" ++ l.compareFailedCount c.failed ++ ")"
    else " (" ++ countText (c.compared - c.failed) ++ "/" ++ countText c.compared ++ ")"
  | some .noReference => " (" ++ l.noReference ++ ")"
  | _ => ""

def summaryRow (l : Locale) (o : JobOutcome) : String :=
  let duration := match o.elapsed with
    | some d => d.brief 2
    | none => "N/A"
  "  - " ++ padRight (o.status l) 18 ++ " | " ++ padRight o.job.id 40 ++ " | " ++
    padLeft duration 10 ++ " " ++ comparisonNote l o ++ "\n"

/-- The summary of a run. -/
def summaryText (l : Locale) (outcomes : List JobOutcome) : String :=
  let failed := (outcomes.filter (·.isUnexpectedFailure)).length
  let allowed := (outcomes.filter (·.isAllowedFailure)).length
  let deprecated := (outcomes.filterMap (·.report)).foldl (· + ·.deprecatedWarnings) 0
  "\n" ++ l.summaryBanner ++ "\n" ++ String.join (outcomes.map (summaryRow l)) ++
    "\n" ++ l.summaryCounts outcomes.length failed allowed ++ "\n" ++
    (if deprecated > 0 then l.deprecatedWarnings deprecated ++ "\n" else "")

/-- A label that may be missing, as a debugging text writes it. -/
def optionText : Option String → String
  | some s => "Some(" ++ Text.quoted s ++ ")"
  | none => "None"

def ColumnResult.complaint (c : ColumnResult) : String :=
  let what := match c.verdict with
    | .toleranceViolation first count largest =>
      countText count ++ " samples out of tolerance, first at row " ++ countText first ++
        ", max |diff| " ++ scientificStyle.render largest
    | .rowCountMismatch r k => "row count " ++ countText k ++ " != " ++ countText r
    | .missingColumn => "column missing in current"
    | .extraColumn => "label not in reference"
    | .passed | .noData => ""
  if c.labelMismatch then
    (if what.isEmpty then "" else what ++ "; ") ++ "label mismatch " ++
      optionText c.currentLabel ++ " != " ++ optionText c.referenceLabel
  else what

/-- The lines of the failed items of a dataset. -/
def DatasetResult.failureLines (d : DatasetResult) : List String :=
  match d.verdict with
  | .missingInCurrent => ["  " ++ d.file ++ ":" ++ d.dataset ++ " dataset missing in current"]
  | .missingInReference => ["  " ++ d.file ++ ":" ++ d.dataset ++ " dataset missing in reference"]
  | .compared columns =>
    (columns.filter (·.failed)).map fun c =>
      let label := (c.referenceLabel.orElse fun _ => c.currentLabel).getD "-"
      "  " ++ d.file ++ ":" ++ d.dataset ++ " [" ++ countText c.index ++ "] " ++ label ++ " " ++
        c.complaint

/-- The line of a file present on one side only. -/
def FileResult.failureLine (f : FileResult) : String :=
  "  " ++ f.file ++ " " ++ match f.verdict with
    | .missingInCurrent => "file missing in current"
    | .missingInReference => "file missing in reference"

/-- The lines of the failed items of a comparison: files first, then datasets. -/
def Outcome.failureLines (o : Outcome) : List String :=
  o.files.map (·.failureLine) ++ o.datasets.flatMap (·.failureLines)

/-- Every failed item of a comparison, a line each. -/
def Outcome.failureText (o : Outcome) : String :=
  String.join (o.failureLines.map (· ++ "\n"))

/-- The failed items and the totals of a standalone comparison. -/
def Outcome.text (o : Outcome) (l : Locale) : String :=
  o.failureText ++ l.comparisonTotals o.compared o.failed ++ "\n"

def lastLines (text : String) (n : Nat) : String :=
  let all := Text.lines text
  "\n".intercalate (all.drop (all.length - n))

def rule : String := String.ofList (List.replicate 80 '-')

def sectionTitle (title : String) : String := "\n--- " ++ title ++ " ---\n\n"

/-- The details of one unexpected failure, the `i`-th of `n`. -/
def failureDetail (l : Locale) (n : Nat) (i : Nat) (o : JobOutcome) : String :=
  let header := "[" ++ countText (i + 1) ++ "/" ++ countText n ++ "] " ++ l.headerFailure ++
    " '" ++ o.job.id ++ "' (" ++ o.job.kind.name ++ ")\n"
  let internal := match o.verdict with
    | .internalError m => sectionTitle l.internalErrorLog ++ m ++ "\n"
    | _ => ""
  let report := match o.report with
    | none => ""
    | some r =>
      let comparison := match r.comparison with
        | .compared c => if c.failed > 0 then sectionTitle l.comparisonLog ++ c.failureText else ""
        | .error m => sectionTitle l.comparisonLog ++ m ++ "\n"
        | _ => ""
      let execution := match r.execution with
        | some e =>
          if e.status.isSuccess then ""
          else sectionTitle (l.executionLog ++ " (" ++ e.status.display ++ ")") ++
            lastLines e.output 40 ++ "\n"
        | none => ""
      comparison ++ execution
  header ++ internal ++ report ++ "\n" ++ rule ++ "\n"

/-- The details of the unexpected failures; nothing when there are none. -/
def failureDetails (l : Locale) (failures : List JobOutcome) : String :=
  if failures.isEmpty then ""
  else
    "\n" ++ l.unexpectedFailureBanner ++ "\n" ++ rule ++ "\n" ++
      String.join (((List.range failures.length).zip failures).map fun (i, o) =>
        failureDetail l failures.length i o)

end SimRegress
