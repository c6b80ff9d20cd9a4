import SimRegress.Job.Basic

/-!
Which examples take part in a run.

An example is accepted when it has one of the wanted labels (any example, if none is wanted),
none of the excluded labels, and one of the wanted kinds (any kind, if none is wanted). Labels
and kind names are compared exactly.
-/

namespace SimRegress

/-- The labels and kinds that select examples. -/
structure JobFilter where
  labels : List String := ["nightly"]
  excludeLabels : List String := []
  kinds : List String := []
  deriving DecidableEq, Repr

/-- Whether the filter accepts an example of a kind with some labels. -/
def JobFilter.accepts (f : JobFilter) (kind : ExampleKind) (labels : List String) : Bool :=
  (f.labels.isEmpty || f.labels.any (labels.contains ·)) &&
    !f.excludeLabels.any (labels.contains ·) &&
    (f.kinds.isEmpty || f.kinds.contains kind.name)

/-- The accepted jobs, in order, and how many were rejected. -/
def JobFilter.apply (f : JobFilter) (jobs : List Job) : List Job × Nat :=
  let accepted := jobs.filter fun j => f.accepts j.kind j.labels
  (accepted, jobs.length - accepted.length)

end SimRegress
