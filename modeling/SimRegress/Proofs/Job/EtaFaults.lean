import Mathlib
import SimRegress.Proofs.Job.Eta

/-!
# When the estimate of the time left faults

The estimate adds the reference durations of the unfinished jobs in job order and stops at the
first unknown one; an addition whose sum reaches `2^64` seconds is a fault. A known sum is then
divided by the number of jobs at once taken modulo `2^32`, and a division by zero is a fault too.
So, for any reference durations, any number of jobs at once and any sequence of finished
indices, each call faults exactly when (`trackerEta`):

* the known durations of the unfinished jobs before the first unfinished one of unknown duration
  add up to `2^64` seconds or more (`knownPrefixNanos`), or else
* no unfinished job has an unknown duration and `max p 1` is a multiple of `2^32`,

and otherwise returns what `expectedProgress` describes (`tracker_faults_exactly`). Each duration
read from a reference run is below `2^64` seconds, and yet two of them can overflow, so the
estimate is not free of faults on the inputs it is given.
-/

namespace SimRegress

/-- The nanoseconds of a duration of `2^64` seconds, the first sum that overflows. -/
def overflowNanos : Nat := secondsBound * nanosPerSecond

lemma Duration.add_ofNanos_overflow {a : Nat} {d : Duration} (h : overflowNanos ≤ a + d.total) :
    (Duration.ofNanos a).add d = .error .addOverflow := by
  have hsecs : (Duration.ofNanos (a + d.total)).secs ≥ secondsBound := by
    show (a + d.total) / nanosPerSecond ≥ secondsBound
    rw [ge_iff_le, Nat.le_div_iff_mul_le (by decide)]
    exact h
  simp only [Duration.add, Duration.total_ofNanos]
  rw [if_pos hsecs]

/-- The nanoseconds of the known durations before the first unknown one. -/
def knownPrefixNanos (l : List (Option Duration)) : Nat :=
  ((l.takeWhile (·.isSome)).map knownNanos).sum

@[simp] lemma knownPrefixNanos_nil : knownPrefixNanos [] = 0 := rfl

@[simp] lemma knownPrefixNanos_none (l : List (Option Duration)) :
    knownPrefixNanos (none :: l) = 0 := rfl

@[simp] lemma knownPrefixNanos_some (d : Duration) (l : List (Option Duration)) :
    knownPrefixNanos (some d :: l) = d.total + knownPrefixNanos l := rfl

lemma knownPrefixNanos_of_not_mem {l : List (Option Duration)} (h : none ∉ l) :
    knownPrefixNanos l = (l.map knownNanos).sum := by
  have hall : ∀ x ∈ l, x.isSome = true := fun x hx => by
    cases x with
    | none => exact absurd hx h
    | some _ => rfl
  rw [knownPrefixNanos, List.takeWhile_eq_self_iff.mpr hall]

/-- **Adding durations in order** from a sum below the bound: a fault exactly when the known
durations before the first unknown one take the sum to the bound, else unknown at an unknown
duration, else the sum. -/
lemma sumKnown_eq (l : List (Option Duration)) :
    ∀ a < overflowNanos, sumKnown (Duration.ofNanos a) l =
      if overflowNanos ≤ a + knownPrefixNanos l then .error .addOverflow
      else .ok (if none ∈ l then none else some (Duration.ofNanos (a + knownPrefixNanos l))) := by
  induction l with
  | nil =>
    intro a ha
    simp only [knownPrefixNanos_nil, Nat.add_zero, List.not_mem_nil, if_false, sumKnown]
    rw [if_neg (by omega)]
    rfl
  | cons d l ih =>
    intro a ha
    cases d with
    | none =>
      simp only [sumKnown, knownPrefixNanos_none, Nat.add_zero, List.mem_cons, true_or, if_true]
      rw [if_neg (by omega)]
      rfl
    | some d =>
      simp only [knownPrefixNanos_some, List.mem_cons, reduceCtorEq, false_or]
      rw [sumKnown_some]
      by_cases hover : overflowNanos ≤ a + d.total
      · -- this addition overflows, and so does the whole sum
        rw [Duration.add_ofNanos_overflow hover, if_pos (by omega)]
        rfl
      · have hadd := Duration.add_ofNanos (a := a) (d := d) (by unfold overflowNanos at hover; omega)
        rw [hadd, ← Nat.add_assoc]
        exact ih (a + d.total) (by omega)

/-! ### The estimate of a tracker -/

section Faults

variable (durations : List (Option Duration)) (p : Nat) (done : List Nat)

/-- The durations of the unfinished jobs of `done`, in job order. -/
def durationsLeft : List (Option Duration) :=
  ((List.range durations.length).filter (· ∉ done)).map fun x => durations.getD x none

/-- The number that divides the sum: `max p 1` taken modulo `2^32`. -/
def etaDivisor : Nat := max p 1 % Nat.pow 2 32

/-- What the estimate of a tracker holding the unfinished jobs of `done` returns: a fault when
the sum before the first unknown duration overflows; unknown at an unknown duration; a fault
when the divisor is zero; else the durations left divided by it. -/
def trackerEta : Except DurationFault (Option Duration) :=
  if overflowNanos ≤ knownPrefixNanos (durationsLeft durations done) then .error .addOverflow
  else if none ∈ durationsLeft durations done then .ok none
  else if etaDivisor p = 0 then .error .divideByZero
  else .ok (some (Duration.ofNanos (remainingNanos durations done / etaDivisor p)))

/-- What a call returns once the jobs of `done` have finished. -/
def trackerOutcome : Except DurationFault Progress :=
  (trackerEta durations p done).map fun eta =>
    ⟨((Finset.range durations.length).filter (· ∈ done)).card, durations.length, eta⟩

lemma sum_durationsLeft :
    ((durationsLeft durations done).map knownNanos).sum = remainingNanos durations done := by
  rw [durationsLeft, List.map_map, sum_filter_range]
  rfl

end Faults

section Run

variable {durations : List (Option Duration)} {p : Nat}

lemma ProgressTracker.Tracks.eta_eq {done : List Nat} {t : ProgressTracker}
    (ht : t.Tracks durations p done) : t.eta = trackerEta durations p done := by
  have hleft : t.remaining.map (·.2) = durationsLeft durations done := by
    rw [ht.remaining, durations_unfinished]
    rfl
  have hzero : Duration.zero = Duration.ofNanos 0 := rfl
  have hsum := sumKnown_eq (durationsLeft durations done) 0 (by decide)
  rw [Nat.zero_add] at hsum
  unfold ProgressTracker.eta trackerEta
  rw [hleft, hzero, hsum]
  by_cases hover : overflowNanos ≤ knownPrefixNanos (durationsLeft durations done)
  · rw [if_pos hover, if_pos hover]
    rfl
  rw [if_neg hover, if_neg hover]
  by_cases hunknown : none ∈ durationsLeft durations done
  · rw [if_pos hunknown, if_pos hunknown]
    rfl
  -- every duration left is known: the sum is divided by the divisor taken modulo `2^32`
  rw [if_neg hunknown, if_neg hunknown, knownPrefixNanos_of_not_mem hunknown,
    sum_durationsLeft]
  have hdiv : t.parallelism % Nat.pow 2 32 = etaDivisor p := by
    rw [ht.parallelism]
    rfl
  by_cases hzero' : etaDivisor p = 0
  · rw [if_pos hzero']
    simp only [bind, Except.bind, Duration.div, hdiv, hzero', beq_self_eq_true, if_true]
    rfl
  · rw [if_neg hzero']
    have hk : (etaDivisor p == 0) = false := by simpa using hzero'
    simp only [bind, Except.bind, Duration.div, hdiv, hk, Bool.false_eq_true, if_false,
      Duration.total_ofNanos]
    rfl

lemma ProgressTracker.Tracks.finish_eq {done : List Nat} {t : ProgressTracker}
    (ht : t.Tracks durations p done) (i : Nat) :
    (t.finish i).2 = trackerOutcome durations p (done ++ [i]) := by
  have ht' := ht.after_finish i
  rw [ProgressTracker.finish_progress, ht'.eta_eq, ht'.finished_eq, ht'.total, trackerOutcome]
  cases trackerEta durations p (done ++ [i]) <;> rfl

end Run

/-- **When the tracker faults.** For any reference durations, any number `p` of jobs at once and
any sequence of finished indices, the first estimate and every call return `trackerOutcome`:
a fault exactly when the known durations left before the first unknown one reach `2^64`
seconds, or when none left is unknown and `max p 1` is a multiple of `2^32`; otherwise the
count of distinct jobs finished and the estimate, unknown while a job left has no duration. -/
theorem tracker_faults_exactly (durations : List (Option Duration)) (p : Nat) (is : List Nat) :
    (ProgressTracker.new durations p).eta = trackerEta durations p [] ∧
      (ProgressTracker.new durations p).finishAll is =
        (List.range is.length).map fun j => trackerOutcome durations p (is.take (j + 1)) := by
  have ht := ProgressTracker.tracks_new durations p
  refine ⟨ht.eta_eq, ?_⟩
  simpa using ProgressTracker.Tracks.finishAll_of_step (trackerOutcome durations p)
    (fun _ _ i ht => ht.finish_eq i) is ht

/-- The first estimate at the two faults' inputs: two jobs of `10^19` seconds each, shared by two
jobs at once, overflow their sum where the estimate would be `10^19` seconds; and a job of a minute
with `2^32` jobs at once has its divisor taken modulo `2^32`, which makes it zero. -/
theorem tracker_first_eta_faults :
    (ProgressTracker.new [some ⟨10000000000000000000, 0⟩, some ⟨10000000000000000000, 0⟩]
      2).eta = .error .addOverflow ∧
    (ProgressTracker.new [some ⟨60, 0⟩] 4294967296).eta = .error .divideByZero :=
  ⟨by decide, by decide⟩

end SimRegress
