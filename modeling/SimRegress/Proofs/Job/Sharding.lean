import Mathlib
import SimRegress.Job.Plan

/-!
# Plans and their shards

A plan keeps the jobs the filter accepts, in their order, and orders them; spread over `n`
runners, runner `i` gets the jobs at the positions `i, i + n, i + 2n, …` of that order
(`shard_getElem?`), so `⌈(m - i) / n⌉` of `m` jobs, and no two runners differ by more than one job.
Laid end to end the shards are a permutation of the order (`perm_flatMap_shard`): every job runs on
exactly one runner, and the jobs that may fail are shared out without loss. A plan fails exactly
when only one of the runner count and the runner index is given, or the index is not below the
count (`plan_shards`).
-/

namespace SimRegress

/-! ### The shards of a list -/

section Shard

variable {n i : Nat}

@[simp] lemma shard_nil (s : Nat) : shard n i s [] = [] := rfl

lemma shard_cons (s : Nat) (j : Job) (js : List Job) :
    shard n i s (j :: js) =
      if s % n = i then j :: shard n i (s + 1) js else shard n i (s + 1) js := by
  simp [shard]

lemma mod_ne_of_add_mod {d s : Nat} (hd : 0 < d) (hdn : d < n) (h : (s + d) % n = i) :
    s % n ≠ i := by
  intro hs
  have heq : s + d ≡ s + 0 [MOD n] := by
    unfold Nat.ModEq
    rw [h, Nat.add_zero, hs]
  have h0 : d % n = 0 := Nat.ModEq.add_left_cancel' s heq
  rw [Nat.mod_eq_of_lt hdn] at h0
  omega

lemma shard_getElem?_of_offset (hn : 0 < n) (js : List Job) :
    ∀ (s d k : Nat), d < n → (s + d) % n = i → (shard n i s js)[k]? = js[d + n * k]? := by
  induction js with
  | nil => simp
  | cons j js ih =>
    intro s d k hd hi
    cases d with
    | zero =>
      rw [shard_cons, if_pos (by simpa using hi)]
      cases k with
      | zero => simp
      | succ k =>
        -- the position after `s` is `n - 1` before the next one of runner `i`
        have hnext : (s + 1 + (n - 1)) % n = i := by
          rw [show s + 1 + (n - 1) = s + n by omega, Nat.add_mod_right]
          simpa using hi
        rw [List.getElem?_cons_succ, ih (s + 1) (n - 1) k (by omega) hnext,
          show 0 + n * (k + 1) = (n - 1 + n * k) + 1 by rw [Nat.mul_succ]; omega,
          List.getElem?_cons_succ]
    | succ d =>
      rw [shard_cons, if_neg (mod_ne_of_add_mod (Nat.succ_pos d) hd hi),
        ih (s + 1) d k (by omega) (by rw [show s + 1 + d = s + (d + 1) by omega]; exact hi),
        show d + 1 + n * k = (d + n * k) + 1 by omega, List.getElem?_cons_succ]

/-- **The shard of runner `i`** holds the jobs at the positions `i, i + n, i + 2n, …`, in order. -/
theorem shard_getElem? (hi : i < n) (js : List Job) (k : Nat) :
    (shard n i 0 js)[k]? = js[i + n * k]? :=
  shard_getElem?_of_offset (by omega) js 0 i k hi (by simp [Nat.mod_eq_of_lt hi])

example : (shard 3 1 0 (["a", "b", "c", "d", "e"].map fun s => ({ id := s } : Job))).map (·.id) =
    ["b", "e"] := by decide

/-- The shard of runner `i` has `⌈(m - i) / n⌉` of `m` jobs. -/
theorem shard_length (hi : i < n) (js : List Job) :
    (shard n i 0 js).length = (js.length - i + n - 1) / n := by
  -- both sides are the least `k` whose position `i + n * k` is past the end
  have hshard : ∀ k, (shard n i 0 js).length ≤ k ↔ js.length ≤ i + n * k := fun k => by
    rw [← List.getElem?_eq_none_iff, shard_getElem? hi, List.getElem?_eq_none_iff]
  have hceil : ∀ k, (js.length - i + n - 1) / n ≤ k ↔ js.length ≤ i + n * k := fun k => by
    rw [Nat.div_le_iff_le_mul_add_pred (by omega)]
    omega
  exact eq_of_forall_ge_iff fun k => (hshard k).trans (hceil k).symm

lemma shard_length_le_succ {i' : Nat} (hi : i < n) (hi' : i' < n) (js : List Job) :
    (shard n i 0 js).length ≤ (shard n i' 0 js).length + 1 := by
  rw [shard_length hi, shard_length hi', ← Nat.add_div_right _ (by omega : 0 < n)]
  exact Nat.div_le_div_right (by omega)

/-- Whatever a predicate picks out of the jobs is shared out over the shards without loss. -/
theorem sum_countP_shard (hn : 0 < n) (p : Job → Bool) (js : List Job) :
    ∀ s, ∑ i ∈ Finset.range n, (shard n i s js).countP p = js.countP p := by
  induction js with
  | nil => simp
  | cons j js ih =>
    intro s
    -- the job at `s` goes to runner `s % n` alone
    have hstep : ∀ i, (shard n i s (j :: js)).countP p =
        (shard n i (s + 1) js).countP p + if s % n = i then (if p j then 1 else 0) else 0 := by
      intro i
      rw [shard_cons]
      split <;> simp [List.countP_cons]
    simp only [hstep, Finset.sum_add_distrib, ih, Finset.sum_ite_eq,
      Finset.mem_range.mpr (Nat.mod_lt s hn), if_true, List.countP_cons]

/-- **The shards laid end to end are a permutation of the list:** every job is in exactly one. -/
theorem perm_flatMap_shard (hn : 0 < n) (js : List Job) :
    ((List.range n).flatMap fun i => shard n i 0 js).Perm js := by
  classical
  refine List.perm_iff_count.mpr fun a => ?_
  calc ((List.range n).flatMap fun i => shard n i 0 js).count a
      = ((List.range n).map fun i => (shard n i 0 js).count a).sum := by
        rw [List.count_flatMap]; rfl
    _ = ∑ i ∈ Finset.range n, (shard n i 0 js).count a := by
        simp [Finset.sum, Finset.range_val, Multiset.range]
    _ = js.count a := sum_countP_shard hn _ js 0

/-- Of a list whose jobs have distinct ids, two runners never get jobs of the same id. -/
theorem shard_ids_disjoint (hn : 0 < n) {js : List Job} (hids : (js.map (·.id)).Nodup)
    {i' : Nat} (hi : i < n) (hi' : i' < n) (hne : i ≠ i') :
    ∀ j ∈ shard n i 0 js, ∀ j' ∈ shard n i' 0 js, j.id ≠ j'.id := by
  have hnodup := ((perm_flatMap_shard hn js).map (·.id)).nodup_iff.mpr hids
  rw [List.map_flatMap, List.nodup_flatMap] at hnodup
  -- disjointness of the shards' ids is symmetric, so it holds of any two distinct runners
  have : Std.Symm (Function.onFun List.Disjoint fun a => (shard n a 0 js).map (·.id)) :=
    ⟨fun _ _ h => List.Disjoint.symm h⟩
  have hdisj := hnodup.2.forall (List.mem_range.mpr hi) (List.mem_range.mpr hi') hne
  intro j hj j' hj' hid
  exact hdisj (List.mem_map_of_mem hj) (hid ▸ List.mem_map_of_mem hj')

end Shard

/-- How the shards of a list over `n` runners split it. -/
structure ShardLaws (js : List Job) (n : Nat) : Prop where
  /-- Runner `i` gets the jobs at the positions `i, i + n, i + 2n, …`, in order. -/
  positions : ∀ i < n, ∀ k, (shard n i 0 js)[k]? = js[i + n * k]?
  /-- Runner `i` gets `⌈(m - i) / n⌉` of `m` jobs. -/
  length : ∀ i < n, (shard n i 0 js).length = (js.length - i + n - 1) / n
  balanced : ∀ i < n, ∀ i' < n, (shard n i 0 js).length ≤ (shard n i' 0 js).length + 1
  /-- Laid end to end, the shards are a permutation of the list. -/
  perm : ((List.range n).flatMap fun i => shard n i 0 js).Perm js
  /-- The jobs that may fail are shared out without loss. -/
  mayFail : ∑ i ∈ Finset.range n, ((shard n i 0 js).filter (·.mayFail)).length =
    (js.filter (·.mayFail)).length

theorem shardLaws {n : Nat} (hn : 0 < n) (js : List Job) : ShardLaws js n where
  positions _ hi := shard_getElem? hi js
  length _ hi := shard_length hi js
  balanced _ hi _ hi' := shard_length_le_succ hi hi' js
  perm := perm_flatMap_shard hn js
  mayFail := by simpa only [← List.countP_eq_length_filter] using sum_countP_shard hn _ js 0

/-! ### Plans -/

section Plan

variable (J : List Job) (F : JobFilter)

lemma make_unsharded :
    Plan.make J F none none =
      .ok ⟨orderJobs (F.apply J).1, (F.apply J).2,
        ((orderJobs (F.apply J).1).filter (·.mayFail)).length, false⟩ := rfl

lemma make_sharded {n i : Nat} (hi : i < n) :
    Plan.make J F (some n) (some i) =
      .ok ⟨shard n i 0 (orderJobs (F.apply J).1), (F.apply J).2,
        ((shard n i 0 (orderJobs (F.apply J).1)).filter (·.mayFail)).length, true⟩ := by
  have hfits : (n == 0 || decide (i ≥ n)) = false := by simp; omega
  simp only [Plan.make, hfits]
  rfl

lemma make_fails_iff (total index : Option Nat) :
    (∃ e, Plan.make J F total index = .error e) ↔
      (total.isSome ≠ index.isSome ∨ ∃ n i, total = some n ∧ index = some i ∧ (n = 0 ∨ n ≤ i)) := by
  cases total with
  | none =>
    cases index with
    | none => simp [make_unsharded]
    | some i => simp [Plan.make]
  | some n =>
    cases index with
    | none => simp [Plan.make]
    | some i =>
      by_cases h : n = 0 ∨ n ≤ i
      · have hbad : (n == 0 || decide (i ≥ n)) = true := by simpa using h
        simp [Plan.make, hbad, h]
      · simp [make_sharded J F (show i < n by omega), h]

end Plan

/-- What planning promises for the jobs `J`, the filter `F` and the order `ordered` of the jobs
it accepts. -/
structure PlanLaws (J : List Job) (F : JobFilter) (ordered : List Job) : Prop where
  /-- Without runners the plan is the whole order, and it counts the rejected jobs. -/
  unsharded : Plan.make J F none none =
    .ok ⟨ordered, J.length - ordered.length, (ordered.filter (·.mayFail)).length, false⟩
  /-- Runner `i` of `n` gets its shard of the order and the same count of rejected jobs. -/
  sharded : ∀ n i, i < n → Plan.make J F (some n) (some i) =
    .ok ⟨shard n i 0 ordered, J.length - ordered.length,
      ((shard n i 0 ordered).filter (·.mayFail)).length, true⟩
  shards : ∀ n, 0 < n → ShardLaws ordered n
  /-- Two runners never get jobs of the same id. -/
  disjoint : ∀ n i i', i < n → i' < n → i ≠ i' →
    ∀ j ∈ shard n i 0 ordered, ∀ j' ∈ shard n i' 0 ordered, j.id ≠ j'.id
  fails : ∀ total index, (∃ e, Plan.make J F total index = .error e) ↔
    (total.isSome ≠ index.isSome ∨ ∃ n i, total = some n ∧ index = some i ∧ (n = 0 ∨ n ≤ i))

@[simp] lemma length_orderJobs (js : List Job) : (orderJobs js).length = js.length :=
  List.length_mergeSort _

/-- **Planning filters, orders and shards without loss or duplication.** Of jobs with distinct
ids, the plan without runners is the order of the accepted jobs; runner `i` of `n` gets the jobs
at `i, i + n, i + 2n, …` of it; the shards split it without loss or overlap; and a plan fails
exactly when the runner count and index do not fit. -/
theorem plan_shards (J : List Job) (F : JobFilter) (hids : (J.map (·.id)).Nodup) :
    PlanLaws J F (orderJobs (J.filter fun j => F.accepts j.kind j.labels)) where
  unsharded := by
    rw [make_unsharded]
    simp only [JobFilter.apply, length_orderJobs]
  sharded n i hi := by
    rw [make_sharded J F hi]
    simp only [JobFilter.apply, length_orderJobs]
  shards _ hn := shardLaws hn _
  disjoint n i i' hi hi' hne := by
    -- the order is a permutation of a part of the jobs, so its ids are distinct too
    have hsub := (List.filter_sublist (p := fun j => F.accepts j.kind j.labels) (l := J)).map (·.id)
    have hperm := (List.mergeSort_perm (J.filter fun j => F.accepts j.kind j.labels)
      Job.runsBefore).map (·.id)
    exact shard_ids_disjoint (by omega) (hperm.nodup_iff.mpr (hids.sublist hsub)) hi hi' hne
  fails := make_fails_iff J F

/-- Two jobs of distinct ids, one of which may fail, under the default filter. -/
theorem plan_shards_two_jobs :
    let J : List Job := [{ id := "a" }, { id := "b", mayFail := true }]
    (J.map (·.id)).Nodup ∧
      PlanLaws J {} (orderJobs (J.filter fun j => ({} : JobFilter).accepts j.kind j.labels)) := by
  intro J
  exact ⟨by decide, plan_shards J {} (by decide)⟩

end SimRegress
