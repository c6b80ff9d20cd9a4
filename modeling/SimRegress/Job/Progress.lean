import SimRegress.Job.Basic

/-!
Progress of a run and the estimate of the time left.

The estimate is the sum of the reference durations of the jobs not yet finished, divided by the
number of jobs that run at once (at least one, and taken modulo `2^32`). It is unknown as soon as
one unfinished job, in job order, has no reference duration; a sum that overflows before that
is a fault, and so is a division by zero.
-/

namespace SimRegress

/-- The reference durations of the unfinished jobs, by job number. -/
structure ProgressTracker where
  /-- Unfinished jobs, by increasing number. -/
  remaining : List (Nat × Option Duration)
  /-- The number of jobs. -/
  total : Nat
  /-- The number of jobs that run at once, at least one. -/
  parallelism : Nat

/-- A tracker with no job finished. -/
def ProgressTracker.new (durations : List (Option Duration)) (parallelism : Nat) :
    ProgressTracker :=
  ⟨(List.range durations.length).zip durations, durations.length, max parallelism 1⟩

/-- Adds durations in order; unknown at the first unknown one. -/
def sumKnown : Duration → List (Option Duration) → Except DurationFault (Option Duration)
  | acc, [] => pure (some acc)
  | _, none :: _ => pure none
  | acc, some d :: ds => do sumKnown (← acc.add d) ds

/-- The estimated time left. -/
def ProgressTracker.eta (t : ProgressTracker) : Except DurationFault (Option Duration) := do
  match ← sumKnown .zero (t.remaining.map (·.2)) with
  | none => pure none
  | some sum => some <$> sum.div (t.parallelism % Nat.pow 2 32)

/-- The progress after some job finished. -/
structure Progress where
  finished : Nat
  total : Nat
  eta : Option Duration

/-- The share of finished jobs in percent; a run of no jobs is complete. -/
def Progress.percent (p : Progress) : Float :=
  if p.total == 0 then 100.0
  else Float.ofNat p.finished / Float.ofNat p.total * 100.0

/-- Marks a job finished; an unknown or finished job changes nothing. -/
def ProgressTracker.finish (t : ProgressTracker) (i : Nat) :
    ProgressTracker × Except DurationFault Progress :=
  let t := { t with remaining := t.remaining.filter (·.1 != i) }
  (t, do pure ⟨t.total - t.remaining.length, t.total, ← t.eta⟩)

/-- The estimate as text: `h:mm:ss`, or `unknown`. -/
def etaText : Option Duration → String
  | some d => d.clock
  | none => "unknown"

end SimRegress
