import SimRegress.Job.Basic
import SimRegress.Run.State
import SimRegress.Comparison.Outcome
import SimRegress.Report.Locale

/-!
How a job ended: what running it and comparing its output gave, and the verdict on it.

A job times out or fails when its run did; otherwise it fails when its comparison has a failed
item, and an error in the comparison counts as one. A job that could not be run at all ends in
an internal error. A failure of a job that may fail is allowed; any other failure is unexpected.
-/

namespace SimRegress

/-- What running a job's programs gave. -/
structure Execution where
  status : ExitState
  /-- How long the simulation step took. -/
  elapsed : Duration
  /-- What all steps printed. -/
  output : String

/-- What comparing a job's output with its reference gave. -/
inductive ComparisonState where
  /-- Comparing was switched off. -/
  | notRun
  /-- The example has no reference. -/
  | noReference
  | compared (outcome : Outcome)
  /-- The output or the reference could not be read. -/
  | error (message : String)

/-- The number of failed comparison items; an error counts as one. -/
def ComparisonState.failed : ComparisonState → Nat
  | .compared o => o.failed
  | .error _ => 1
  | _ => 0

/-- All that running a job reports. -/
structure JobReport where
  /-- Nothing when running was switched off. -/
  execution : Option Execution
  comparison : ComparisonState
  /-- The number of warnings about deprecated features in the output. -/
  deprecatedWarnings : Nat := 0

/-- The verdict on a job. -/
inductive Verdict where
  | passed
  | failed
  | timedOut
  | internalError (message : String)
  deriving DecidableEq, Repr

/-- A job and how it ended. -/
structure JobOutcome where
  job : Job
  verdict : Verdict
  /-- Nothing for an internal error. -/
  report : Option JobReport

/-- The verdict on a job from its report. -/
def JobOutcome.ofReport (job : Job) (report : JobReport) : JobOutcome :=
  let verdict : Verdict := match report.execution.map (fun e : Execution => e.status) with
    | some .timedOut => .timedOut
    | some (.failed _) => .failed
    | _ => if report.comparison.failed > 0 then .failed else .passed
  ⟨job, verdict, some report⟩

/-- A job that could not be run. -/
def JobOutcome.internalError (job : Job) (message : String) : JobOutcome :=
  ⟨job, .internalError message, none⟩

/-- The job did not pass. -/
def JobOutcome.isFailure (o : JobOutcome) : Bool := o.verdict != .passed

/-- A failure that fails the run. -/
def JobOutcome.isUnexpectedFailure (o : JobOutcome) : Bool := o.isFailure && !o.job.mayFail

/-- A failure of a job that may fail. -/
def JobOutcome.isAllowedFailure (o : JobOutcome) : Bool := o.isFailure && o.job.mayFail

/-- How long the simulation took, if it ran. -/
def JobOutcome.elapsed (o : JobOutcome) : Option Duration :=
  (o.report.bind (·.execution)).map (·.elapsed)

/-- The number of failed comparison items, if the job was run. -/
def JobOutcome.comparisonFailed (o : JobOutcome) : Option Nat :=
  o.report.map (·.comparison.failed)

/-- How a report names the end of the job. -/
def JobOutcome.statusWord (o : JobOutcome) : StatusWord :=
  if o.isAllowedFailure then .allowedFailure
  else match o.verdict with
    | .passed => .passed
    | .failed => .failed
    | .timedOut => .timedOut
    | .internalError _ => .internalError

/-- The end of the job in a language. -/
def JobOutcome.status (o : JobOutcome) (l : Locale) : String := l.status o.statusWord

end SimRegress
