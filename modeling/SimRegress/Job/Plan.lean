import SimRegress.Job.Filter

/-!
Execution plans: which jobs run on this runner, and in which order.

Jobs whose reference duration is unknown run first, by id; then the others, longest first, ties
by id. Ids are compared character by character. A run spread over several runners gives job
`i` of that order to runner `i % total`; a runner index needs a runner count and the other way
round.
-/

namespace SimRegress

/-- Whether job `a` runs no later than job `b`. -/
def Job.runsBefore (a b : Job) : Bool :=
  match a.referenceDuration, b.referenceDuration with
  | none, none => decide (a.id ≤ b.id)
  | none, some _ => true
  | some _, none => false
  | some da, some db =>
    da.total > db.total || (da.total == db.total && decide (a.id ≤ b.id))

/-- The jobs in the order they run. The sort is stable, so equal jobs keep their order. -/
def orderJobs (jobs : List Job) : List Job := jobs.mergeSort Job.runsBefore

/-- Why a plan cannot be made. -/
inductive PlanError where
  /-- The runner index is not below the runner count. -/
  | indexOutOfRange
  /-- Only one of the runner count and the runner index is given. -/
  | incompleteSharding
  deriving DecidableEq, Repr

def PlanError.message : PlanError → String
  | .indexOutOfRange => "Runner index must be less than total runners."
  | .incompleteSharding => "Both --total-runners and --runner-index must be provided."

/-- The jobs of one runner. -/
structure Plan where
  /-- The jobs this runner runs, in order. -/
  jobs : List Job
  /-- How many jobs the filter rejected. -/
  filteredCount : Nat
  /-- How many of the jobs may fail. -/
  mayFailCount : Nat
  /-- Whether the jobs are spread over several runners. -/
  isDistributed : Bool

/-- The jobs at the positions `i` with `i % total = index`, counting from `start`. -/
def shard (total index : Nat) : Nat → List Job → List Job
  | _, [] => []
  | i, j :: js => if i % total == index then j :: shard total index (i + 1) js
    else shard total index (i + 1) js

/-- The plan of one runner: filter, order, then take this runner's share. -/
def Plan.make (jobs : List Job) (filter : JobFilter) (total index : Option Nat) :
    Except PlanError Plan := do
  let (accepted, filteredCount) := filter.apply jobs
  let ordered := orderJobs accepted
  let (mine, distributed) ← match total, index with
    | some t, some i =>
      if t == 0 || i ≥ t then .error .indexOutOfRange else pure (shard t i 0 ordered, true)
    | none, none => pure (ordered, false)
    | _, _ => .error .incompleteSharding
  pure ⟨mine, filteredCount, (mine.filter (·.mayFail)).length, distributed⟩

end SimRegress
