import Mathlib
import SimRegress.Job.Plan

/-!
# The run order of jobs

Jobs run in the order of a key: first the reference duration, an unknown one before every known
one and a longer one before a shorter one, then the id (`Job.runKey`). The comparison the sort is
given is exactly `≤` on that key (`Job.runsBefore_iff`), so it is total and transitive; on jobs of
distinct ids the key tells any two apart, and the comparison is a total order on them. Sorting
such jobs therefore gives the one permutation whose keys strictly increase
(`orderJobs_sorted`, `eq_orderJobs_of_sorted`), whatever order the jobs came in
(`orderJobs_eq_of_perm`).
-/

namespace SimRegress

/-- Where its reference duration puts a job: an unknown duration below every known one, and a
longer duration below a shorter one. -/
def Job.durationRank (j : Job) : WithBot ℕᵒᵈ :=
  match j.referenceDuration with
  | none => ⊥
  | some d => (OrderDual.toDual d.total : ℕᵒᵈ)

/-- The key of the run order: the duration rank, then the id. -/
def Job.runKey (j : Job) : WithBot ℕᵒᵈ ×ₗ String := toLex (j.durationRank, j.id)

/-! ### The comparison and its key -/

namespace Job

/-- The comparison the sort is given is `≤` on the run key. -/
theorem runsBefore_iff (a b : Job) : a.runsBefore b = true ↔ a.runKey ≤ b.runKey := by
  unfold Job.runsBefore Job.runKey Job.durationRank
  cases a.referenceDuration <;> cases b.referenceDuration <;> simp [Prod.Lex.toLex_le_toLex]

/-- The run order in words: unknown durations first, by id; then the known ones, longer first,
equal ones by id. -/
theorem runKey_lt_iff (a b : Job) :
    a.runKey < b.runKey ↔
      (a.referenceDuration = none ∧ b.referenceDuration = none ∧ a.id < b.id) ∨
      (a.referenceDuration = none ∧ b.referenceDuration ≠ none) ∨
      ∃ da db, a.referenceDuration = some da ∧ b.referenceDuration = some db ∧
        (db.total < da.total ∨ da.total = db.total ∧ a.id < b.id) := by
  unfold Job.runKey Job.durationRank
  cases a.referenceDuration <;> cases b.referenceDuration <;> simp [Prod.Lex.toLex_lt_toLex]

lemma id_eq_of_runKey_eq {a b : Job} (h : a.runKey = b.runKey) : a.id = b.id :=
  congrArg (fun k => (ofLex k).2) h

lemma runsBefore_total (a b : Job) : (a.runsBefore b || b.runsBefore a) = true := by
  rw [Bool.or_eq_true, runsBefore_iff, runsBefore_iff]
  exact le_total _ _

lemma runsBefore_trans {a b c : Job} (hab : a.runsBefore b = true) (hbc : b.runsBefore c = true) :
    a.runsBefore c = true := by
  rw [runsBefore_iff] at hab hbc ⊢
  exact le_trans hab hbc

end Job

/-! ### Sorting -/

section Sorting

variable {js : List Job}

lemma orderJobs_perm (js : List Job) : (orderJobs js).Perm js := List.mergeSort_perm js _

lemma eq_of_runKey_eq (hids : (js.map (·.id)).Nodup) {a b : Job} (ha : a ∈ js) (hb : b ∈ js)
    (h : a.runKey = b.runKey) : a = b :=
  List.inj_on_of_nodup_map hids ha hb (Job.id_eq_of_runKey_eq h)

/-- Sorted jobs of distinct ids have strictly increasing keys. -/
theorem orderJobs_sorted (hids : (js.map (·.id)).Nodup) :
    (orderJobs js).Pairwise fun a b => a.runKey < b.runKey := by
  have hle : (js.mergeSort Job.runsBefore).Pairwise fun a b => a.runsBefore b = true :=
    List.pairwise_mergeSort (fun a b c => @Job.runsBefore_trans a b c) Job.runsBefore_total js
  -- the sort only permutes the jobs, so their ids stay distinct
  have hnodup : ((orderJobs js).map (·.id)).Nodup :=
    ((orderJobs_perm js).map (·.id)).nodup_iff.mpr hids
  have hne : (orderJobs js).Pairwise fun a b => a.id ≠ b.id := List.pairwise_map.mp hnodup
  refine (hle.and hne).imp fun ⟨hab, hid⟩ => ?_
  exact lt_of_le_of_ne ((Job.runsBefore_iff _ _).mp hab) fun h => hid (Job.id_eq_of_runKey_eq h)

/-- A permutation of the jobs with strictly increasing keys is the sorted one. -/
theorem eq_orderJobs_of_sorted (hids : (js.map (·.id)).Nodup) {l : List Job} (hl : l.Perm js)
    (hs : l.Pairwise fun a b => a.runKey < b.runKey) : l = orderJobs js :=
  -- two lists sorted by a strict order are equal once they are permutations of each other
  List.Perm.eq_of_pairwise (fun _ _ _ _ hab hba => absurd hba (lt_asymm hab)) hs
    (orderJobs_sorted hids) (hl.trans (orderJobs_perm js).symm)

/-- The order does not depend on the order the jobs come in. -/
theorem orderJobs_eq_of_perm (hids : (js.map (·.id)).Nodup) {js' : List Job} (hp : js'.Perm js) :
    orderJobs js' = orderJobs js := by
  have hids' : (js'.map (·.id)).Nodup := (hp.map (·.id)).nodup_iff.mpr hids
  exact eq_orderJobs_of_sorted hids ((orderJobs_perm js').trans hp) (orderJobs_sorted hids')

end Sorting

/-- What ordering promises for a list of jobs. -/
structure OrderLaws (js : List Job) : Prop where
  /-- The comparison is `≤` on the run key: unknown durations first, then longer ones, then
  by id. -/
  comparison : ∀ a b : Job, a.runsBefore b = true ↔ a.runKey ≤ b.runKey
  total : ∀ a b : Job, a.runsBefore b = true ∨ b.runsBefore a = true
  trans : ∀ a b c : Job, a.runsBefore b = true → b.runsBefore c = true → a.runsBefore c = true
  /-- On these jobs the comparison is antisymmetric: a total order. -/
  antisymm : ∀ a ∈ js, ∀ b ∈ js, a.runsBefore b = true → b.runsBefore a = true → a = b
  perm : (orderJobs js).Perm js
  sorted : (orderJobs js).Pairwise fun a b => a.runKey < b.runKey
  /-- No other permutation is sorted. -/
  unique : ∀ l : List Job, l.Perm js → (l.Pairwise fun a b => a.runKey < b.runKey) →
    l = orderJobs js
  /-- Any order of the same jobs is sorted alike. -/
  input_order : ∀ js' : List Job, js'.Perm js → orderJobs js' = orderJobs js

/-- **The run order is canonical.** For jobs of pairwise distinct ids, the comparison is a total
order, and the sort gives the unique permutation with unknown durations first by id, then the
known ones longest first, equal durations by id; so every permutation of the jobs is ordered
alike. -/
theorem orderJobs_canonical (js : List Job) (hids : (js.map (·.id)).Nodup) : OrderLaws js where
  comparison := Job.runsBefore_iff
  total a b := by simpa using Job.runsBefore_total a b
  trans _ _ _ := Job.runsBefore_trans
  antisymm a ha b hb hab hba := by
    rw [Job.runsBefore_iff] at hab hba
    exact eq_of_runKey_eq hids ha hb (le_antisymm hab hba)
  perm := orderJobs_perm js
  sorted := orderJobs_sorted hids
  unique _ := eq_orderJobs_of_sorted hids
  input_order _ := orderJobs_eq_of_perm hids

example : (orderJobs [{ id := "b", referenceDuration := some ⟨5, 0⟩ }, { id := "c" },
    { id := "a", referenceDuration := some ⟨5, 0⟩ },
    { id := "d", referenceDuration := some ⟨7, 0⟩ }]).map (·.id) = ["c", "d", "a", "b"] := by
  cbv

/-- Three jobs: one of unknown duration, and two of equal duration told apart by id. -/
theorem orderJobs_canonical_three_jobs :
    let js : List Job := [{ id := "b", referenceDuration := some ⟨5, 0⟩ }, { id := "c" },
      { id := "a", referenceDuration := some ⟨5, 0⟩ }]
    (js.map (·.id)).Nodup ∧ OrderLaws js := by
  intro js
  have hids : (js.map (·.id)).Nodup := by decide
  exact ⟨hids, orderJobs_canonical js hids⟩

end SimRegress
