import Mathlib
import SimRegress.Job.Progress

/-!
The progress of a run and its estimate of the time left, over any sequence of finished jobs.

A tracker starts from the reference durations of the jobs, each known or unknown, and is told
one job at a time that it finished, by index; an index out of range, or one already finished,
changes nothing. After each call the progress counts the distinct indices finished so far, and
the estimate is unknown exactly when some unfinished job has no reference duration; otherwise it
is the sum of the durations of the unfinished jobs, divided by the number of jobs that run at
once, rounded down to a nanosecond (`expectedProgress`). So the count never decreases, and the
estimate never grows and, once known, stays known (`expectedProgress_mono`).

This holds when the known durations add up to no more than the largest duration and the number
of jobs at once fits in 32 bits: then no sum overflows and the division is by that number
itself (`finishAll_eq_expected`). The proof keeps one invariant, that the tracker holds exactly
the unfinished jobs with their durations (`ProgressTracker.Tracks`); one call keeps it
(`Tracks.finish`), and a whole sequence of calls by induction on the calls.
-/

namespace SimRegress

/-- The progress returned by each of a sequence of calls that mark jobs finished. -/
def ProgressTracker.finishAll (t : ProgressTracker) : List Nat → List (Except DurationFault Progress)
  | [] => []
  | i :: is => (t.finish i).2 :: (t.finish i).1.finishAll is

/-- The largest duration: the last nanosecond below `2^64` seconds. -/
def Duration.largest : Duration := ⟨secondsBound - 1, nanosPerSecond - 1⟩

/-- The nanoseconds of a known duration; an unknown one counts as none. -/
def knownNanos (d : Option Duration) : Nat := (d.map Duration.total).getD 0

/-- The nanoseconds of the known durations of the jobs not in `done`. -/
def remainingNanos (durations : List (Option Duration)) (done : List Nat) : Nat :=
  ∑ x ∈ (Finset.range durations.length).filter (· ∉ done), knownNanos (durations.getD x none)

/-- The estimate once the jobs in `done` have finished: unknown while an unfinished job has no
duration, else the durations left shared among `max p 1` jobs at once. -/
def expectedEta (durations : List (Option Duration)) (p : Nat) (done : List Nat) :
    Option Duration :=
  if ∃ x < durations.length, x ∉ done ∧ durations.getD x none = none then none
  else some (Duration.ofNanos (remainingNanos durations done / max p 1))

/-- The progress once the jobs in `done` have finished: the distinct jobs among them, all jobs,
and the estimate. -/
def expectedProgress (durations : List (Option Duration)) (p : Nat) (done : List Nat) :
    Progress :=
  ⟨((Finset.range durations.length).filter (· ∈ done)).card, durations.length,
    expectedEta durations p done⟩

/-! ### Durations -/

@[simp] lemma Duration.total_ofNanos (n : Nat) : (Duration.ofNanos n).total = n := by
  simp only [Duration.total, Duration.ofNanos]
  exact Nat.div_add_mod' n nanosPerSecond

lemma Duration.largest_total : Duration.largest.total = secondsBound * nanosPerSecond - 1 := by
  decide

lemma Duration.add_ofNanos {a : Nat} {d : Duration}
    (h : a + d.total < secondsBound * nanosPerSecond) :
    (Duration.ofNanos a).add d = .ok (Duration.ofNanos (a + d.total)) := by
  have hsecs : ¬ (Duration.ofNanos (a + d.total)).secs ≥ secondsBound := by
    show ¬ (a + d.total) / nanosPerSecond ≥ secondsBound
    rw [ge_iff_le, Nat.le_div_iff_mul_le (by decide)]
    omega
  simp only [Duration.add, Duration.total_ofNanos]
  rw [if_neg hsecs]

lemma sumKnown_some (acc d : Duration) (l : List (Option Duration)) :
    sumKnown acc (some d :: l) = (acc.add d).bind fun acc' => sumKnown acc' l := rfl

lemma sumKnown_ofNanos (l : List (Option Duration)) :
    ∀ a, a + (l.map knownNanos).sum < secondsBound * nanosPerSecond →
      sumKnown (Duration.ofNanos a) l =
        .ok (if none ∈ l then none else some (Duration.ofNanos (a + (l.map knownNanos).sum))) := by
  induction l with
  | nil =>
    intro a _
    simp only [sumKnown, List.not_mem_nil, if_false, List.map_nil, List.sum_nil, Nat.add_zero]
    rfl
  | cons d l ih =>
    intro a hbound
    cases d with
    | none =>
      simp only [sumKnown, List.mem_cons, true_or, if_true]
      rfl
    | some d =>
      -- the partial sum stays below the bound, so the addition does not overflow
      have hsum : ((some d :: l).map knownNanos).sum = d.total + (l.map knownNanos).sum := rfl
      rw [hsum, ← Nat.add_assoc] at hbound ⊢
      have hadd := Duration.add_ofNanos (a := a) (d := d) (by omega)
      simp only [List.mem_cons, reduceCtorEq, false_or]
      rw [sumKnown_some, hadd]
      exact ih (a + d.total) hbound

/-! ### Unfinished jobs as lists and as sets -/

section Lists

variable (durations : List (Option Duration)) (done : List Nat)

lemma zip_range_eq_map :
    (List.range durations.length).zip durations =
      (List.range durations.length).map fun x => (x, durations.getD x none) := by
  apply List.ext_getElem
  · simp
  · intro i h _
    simp [List.getElem?_eq_getElem (by simpa using h)]

lemma length_filter_range (n : Nat) (q : Nat → Prop) [DecidablePred q] :
    ((List.range n).filter q).length = ((Finset.range n).filter q).card := by
  rw [← List.toFinset_card_of_nodup (List.nodup_range.filter _), List.toFinset_filter,
    List.toFinset_range]
  simp

lemma sum_filter_range (n : Nat) (q : Nat → Prop) [DecidablePred q] (f : Nat → Nat) :
    (((List.range n).filter q).map f).sum = ∑ x ∈ (Finset.range n).filter q, f x := by
  rw [← List.sum_toFinset f (List.nodup_range.filter _), List.toFinset_filter,
    List.toFinset_range]
  simp

/-- The unfinished jobs with their durations, in index order. -/
def unfinished : List (Nat × Option Duration) :=
  ((List.range durations.length).zip durations).filter fun e => e.1 ∉ done

lemma length_unfinished :
    (unfinished durations done).length =
      ((Finset.range durations.length).filter (· ∉ done)).card := by
  rw [unfinished, zip_range_eq_map, List.filter_map, List.length_map, ← length_filter_range]
  rfl

lemma durations_unfinished :
    (unfinished durations done).map (·.2) =
      ((List.range durations.length).filter (· ∉ done)).map fun x => durations.getD x none := by
  rw [unfinished, zip_range_eq_map, List.filter_map, List.map_map]
  rfl

lemma filter_range_subset {n : Nat} {q r : Nat → Prop} [DecidablePred q] [DecidablePred r]
    (h : ∀ x, q x → r x) : (Finset.range n).filter q ⊆ (Finset.range n).filter r := by
  intro x hx
  rw [Finset.mem_filter] at hx ⊢
  exact ⟨hx.1, h x hx.2⟩

lemma card_finished_add_unfinished :
    ((Finset.range durations.length).filter (· ∈ done)).card +
      ((Finset.range durations.length).filter (· ∉ done)).card = durations.length := by
  rw [Finset.card_filter_add_card_filter_not, Finset.card_range]

end Lists

/-! ### One call, and a run of calls -/

/-- The tracker holds exactly the unfinished jobs of `done`, with their durations, counts all jobs
and runs `max p 1` of them at once. -/
structure ProgressTracker.Tracks (durations : List (Option Duration)) (p : Nat) (done : List Nat)
    (t : ProgressTracker) : Prop where
  remaining : t.remaining = unfinished durations done
  total : t.total = durations.length
  parallelism : t.parallelism = max p 1

section Run

variable {durations : List (Option Duration)} {p : Nat}

lemma ProgressTracker.tracks_new (durations : List (Option Duration)) (p : Nat) :
    (ProgressTracker.new durations p).Tracks durations p [] where
  remaining := by simp [ProgressTracker.new, unfinished]
  total := rfl
  parallelism := rfl

lemma ProgressTracker.Tracks.eta {done : List Nat} {t : ProgressTracker}
    (ht : t.Tracks durations p done) (hp : max p 1 < Nat.pow 2 32)
    (hsum : remainingNanos durations [] ≤ Duration.largest.total) :
    t.eta = .ok (expectedEta durations p done) := by
  have hrem : ((t.remaining.map (·.2)).map knownNanos).sum = remainingNanos durations done := by
    rw [ht.remaining, durations_unfinished, List.map_map, sum_filter_range]
    rfl
  -- what is left never exceeds what there was at the start, which is within the bound
  have hle : remainingNanos durations done ≤ remainingNanos durations [] :=
    Finset.sum_le_sum_of_subset (filter_range_subset fun _ _ => List.not_mem_nil)
  have hbound : 0 + ((t.remaining.map (·.2)).map knownNanos).sum <
      secondsBound * nanosPerSecond := by
    have := Duration.largest_total
    have : 0 < secondsBound * nanosPerSecond := by decide
    omega
  have hunknown : none ∈ t.remaining.map (·.2) ↔
      ∃ x < durations.length, x ∉ done ∧ durations.getD x none = none := by
    rw [ht.remaining, durations_unfinished]
    simp only [List.mem_map, List.mem_filter, List.mem_range, decide_eq_true_eq, and_assoc]
  have hdiv : t.parallelism % Nat.pow 2 32 = max p 1 := by
    rw [ht.parallelism]
    exact Nat.mod_eq_of_lt hp
  have hzero : Duration.zero = Duration.ofNanos 0 := rfl
  unfold ProgressTracker.eta expectedEta
  rw [hzero, sumKnown_ofNanos _ 0 hbound]
  by_cases hu : ∃ x < durations.length, x ∉ done ∧ durations.getD x none = none
  · rw [if_pos (hunknown.mpr hu), if_pos hu]
    rfl
  · rw [if_neg (fun h => hu (hunknown.mp h)), if_neg hu, hrem, hdiv, Nat.zero_add]
    have hk : (max p 1 == 0) = false := by simp
    simp only [bind, Except.bind, Duration.div, hk, Bool.false_eq_true, if_false,
      Duration.total_ofNanos]
    rfl

lemma ProgressTracker.Tracks.after_finish {done : List Nat} {t : ProgressTracker}
    (ht : t.Tracks durations p done) (i : Nat) :
    (t.finish i).1.Tracks durations p (done ++ [i]) := by
  refine ⟨?_, ht.total, ht.parallelism⟩
  simp only [ProgressTracker.finish, ht.remaining, unfinished, List.filter_filter]
  congr 1
  funext e
  by_cases he : e.1 = i <;> simp [he]

lemma ProgressTracker.Tracks.finished_eq {done : List Nat} {t : ProgressTracker}
    (ht : t.Tracks durations p done) :
    t.total - t.remaining.length = ((Finset.range durations.length).filter (· ∈ done)).card := by
  have := card_finished_add_unfinished durations done
  rw [ht.total, ht.remaining, length_unfinished]
  omega

lemma ProgressTracker.finish_progress (t : ProgressTracker) (i : Nat) :
    (t.finish i).2 = ((t.finish i).1.eta >>= fun eta =>
      pure ⟨(t.finish i).1.total - (t.finish i).1.remaining.length, (t.finish i).1.total, eta⟩) :=
  rfl

/-- **One call** marks the job finished in the tracker and returns the progress of the jobs
finished so far. -/
lemma ProgressTracker.Tracks.finish {done : List Nat} {t : ProgressTracker}
    (ht : t.Tracks durations p done) (hp : max p 1 < Nat.pow 2 32)
    (hsum : remainingNanos durations [] ≤ Duration.largest.total) (i : Nat) :
    (t.finish i).1.Tracks durations p (done ++ [i]) ∧
      (t.finish i).2 = .ok (expectedProgress durations p (done ++ [i])) := by
  have ht' := ht.after_finish i
  refine ⟨ht', ?_⟩
  rw [ProgressTracker.finish_progress, ht'.eta hp hsum, ht'.finished_eq, ht'.total]
  rfl

lemma ProgressTracker.Tracks.finishAll_of_step (F : List Nat → Except DurationFault Progress)
    (hF : ∀ (done : List Nat) (t : ProgressTracker) (i : Nat), t.Tracks durations p done →
      (t.finish i).2 = F (done ++ [i])) :
    ∀ (is : List Nat) {done : List Nat} {t : ProgressTracker}, t.Tracks durations p done →
      t.finishAll is = (List.range is.length).map fun j => F (done ++ is.take (j + 1))
  | [], _, _, _ => rfl
  | i :: is, done, t, ht => by
    rw [ProgressTracker.finishAll, hF done t i ht,
      ProgressTracker.Tracks.finishAll_of_step F hF is (ht.after_finish i), List.length_cons,
      List.range_succ_eq_map, List.map_cons, List.map_map]
    congr 2
    funext j
    simp

/-- **A run of calls**: each returns the progress of the jobs finished up to it. -/
lemma ProgressTracker.Tracks.finishAll (hp : max p 1 < Nat.pow 2 32)
    (hsum : remainingNanos durations [] ≤ Duration.largest.total) (is : List Nat)
    {done : List Nat} {t : ProgressTracker} (ht : t.Tracks durations p done) :
    t.finishAll is =
      (List.range is.length).map fun j => .ok (expectedProgress durations p (done ++ is.take (j + 1))) :=
  ProgressTracker.Tracks.finishAll_of_step (fun done => .ok (expectedProgress durations p done))
    (fun _ _ i ht => (ht.finish hp hsum i).2) is ht

end Run

/-! ### Along the sequence -/

section Monotone

variable (durations : List (Option Duration)) (p : Nat)

lemma expectedProgress_finished (done : List Nat) :
    (expectedProgress durations p done).finished ≤ durations.length ∧
      ((expectedProgress durations p done).finished = durations.length ↔
        ∀ x < durations.length, x ∈ done) := by
  simp only [expectedProgress]
  have hle := Finset.card_filter_le (Finset.range durations.length) (· ∈ done)
  rw [Finset.card_range] at hle
  refine ⟨hle, ?_⟩
  have hiff := Finset.card_filter_eq_iff (s := Finset.range durations.length) (p := (· ∈ done))
  rw [Finset.card_range] at hiff
  simpa using hiff

/-- **More jobs finished**: the count does not decrease, and a known estimate stays known and
does not grow. -/
lemma expectedProgress_mono {done done' : List Nat} (h : ∀ x ∈ done, x ∈ done') :
    (expectedProgress durations p done).finished ≤ (expectedProgress durations p done').finished ∧
      ∀ a, (expectedProgress durations p done).eta = some a →
        ∃ b, (expectedProgress durations p done').eta = some b ∧ b.total ≤ a.total := by
  refine ⟨Finset.card_le_card (filter_range_subset h), ?_⟩
  intro a ha
  simp only [expectedProgress, expectedEta] at ha ⊢
  -- every job unfinished later was unfinished before
  have hsub : (Finset.range durations.length).filter (· ∉ done') ⊆
      (Finset.range durations.length).filter (· ∉ done) :=
    filter_range_subset fun x hx hxd => hx (h x hxd)
  by_cases hu : ∃ x < durations.length, x ∉ done ∧ durations.getD x none = none
  · rw [if_pos hu] at ha
    cases ha
  rw [if_neg hu] at ha
  cases ha
  have hu' : ¬ ∃ x < durations.length, x ∉ done' ∧ durations.getD x none = none :=
    fun ⟨x, hx, hxd, hnone⟩ => hu ⟨x, hx, fun hxd' => hxd (h x hxd'), hnone⟩
  refine ⟨_, if_neg hu', ?_⟩
  simp only [Duration.total_ofNanos]
  exact Nat.div_le_div_right (Finset.sum_le_sum_of_subset hsub)

end Monotone

/-- **The estimate over whole runs.** For any reference durations, any number `p` of jobs at once
with `max p 1 < 2^32`, known durations that add up to no more than the largest duration, and any
sequence of finished indices (repeated or out of range ones too): every call returns the progress
of the distinct jobs finished so far among all jobs, with the estimate unknown exactly while an
unfinished job has no duration and otherwise the durations left divided by `max p 1`, rounded
down. Along the sequence the count never decreases, is at most the number of jobs and reaches it
exactly when every job has finished, and a known estimate stays known and never grows. -/
theorem eta_tracker_law (durations : List (Option Duration)) (p : Nat)
    (hp : max p 1 < Nat.pow 2 32)
    (hsum : ∑ x ∈ Finset.range durations.length, knownNanos (durations.getD x none) ≤
      Duration.largest.total)
    (is : List Nat) :
    (ProgressTracker.new durations p).finishAll is =
        (List.range is.length).map (fun j => .ok (expectedProgress durations p (is.take (j + 1)))) ∧
      (∀ j j', j ≤ j' →
        (expectedProgress durations p (is.take (j + 1))).finished ≤
          (expectedProgress durations p (is.take (j' + 1))).finished ∧
        ∀ a, (expectedProgress durations p (is.take (j + 1))).eta = some a →
          ∃ b, (expectedProgress durations p (is.take (j' + 1))).eta = some b ∧
            b.total ≤ a.total) ∧
      ∀ j, (expectedProgress durations p (is.take (j + 1))).finished ≤ durations.length ∧
        ((expectedProgress durations p (is.take (j + 1))).finished = durations.length ↔
          ∀ x < durations.length, x ∈ is.take (j + 1)) := by
  have hsum' : remainingNanos durations [] ≤ Duration.largest.total := by
    simpa [remainingNanos] using hsum
  refine ⟨?_, fun j j' hjj' => ?_, fun j => expectedProgress_finished durations p _⟩
  · simpa using (ProgressTracker.tracks_new durations p).finishAll hp hsum' is
  · exact expectedProgress_mono durations p fun x hx =>
      List.take_subset_take_left is (Nat.succ_le_succ hjj') hx

/-- Two jobs, the second of unknown duration, finished in the order 1, 0 with a stray index 5. -/
theorem eta_tracker_law_two_jobs :
    max 2 1 < Nat.pow 2 32 ∧
      ∑ x ∈ Finset.range 2, knownNanos ([some ⟨3, 0⟩, none].getD x none) ≤
        Duration.largest.total ∧
      (ProgressTracker.new [some ⟨3, 0⟩, none] 2).finishAll [1, 5, 0] =
        (List.range 3).map (fun j =>
          .ok (expectedProgress [some ⟨3, 0⟩, none] 2 ([1, 5, 0].take (j + 1)))) := by
  have hp : max 2 1 < Nat.pow 2 32 := by decide
  have hsum : ∑ x ∈ Finset.range 2, knownNanos ([some ⟨3, 0⟩, none].getD x none) ≤
      Duration.largest.total := by
    rw [Duration.largest_total]
    simp [Finset.sum_range_succ, knownNanos, Duration.total, nanosPerSecond, secondsBound]
  exact ⟨hp, hsum, (eta_tracker_law [some ⟨3, 0⟩, none] 2 hp hsum [1, 5, 0]).1⟩

end SimRegress
