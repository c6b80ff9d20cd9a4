import Mathlib
import SimRegress.Proofs.Comparison.Replay
import SimRegress.Proofs.Float.Rounding
import SimRegress.Proofs.Traversal

/-!
Loosening the tolerance never creates a failure.

A tolerance `t'` loosens `t` when neither of its two tolerances is smaller and those of `t` are
not negative (`Tolerance.LoosenedTo`). A pair of samples that violates `t'` violates `t`
(`Tolerance.violates_of_loosened`): pairs with a NaN or an infinity do not depend on the
tolerance, and for finite pairs this rests on the order and the rounding of binary64 floats,
where the relative bound `rtol * |reference|` grows with `rtol` unless it is a NaN, which no
difference exceeds. So the scan of a column under `t'` finds its first violation no earlier,
fewer violations and a largest difference no larger (`ScanLoosened`), and the verdict on each
column is loosened (`columnVerdict_loosened`). Every other verdict and every label flag does not
depend on the tolerance. Through the items that a comparison replays, a comparison of two
collections or of two stores under `t'` compares the same things, fails no more often and passes
whenever it passes under `t` (`looser_tolerance_loosens_outcome`).
-/

namespace SimRegress

open Binary64

/-- The tolerance `t'` is `t` loosened: neither of its tolerances is smaller, and those of `t`
are not negative, so that none of them is NaN. -/
structure Tolerance.LoosenedTo (t t' : Tolerance) : Prop where
  atol_nonneg : 0.0 ≤ t.atol
  atol_le : t.atol ≤ t'.atol
  rtol_nonneg : 0.0 ≤ t.rtol
  rtol_le : t.rtol ≤ t'.rtol

/-! ### Samples -/

/-- **A looser tolerance is violated by no more pairs.** Pairs with a NaN or an infinity do not
depend on the tolerance; for finite pairs, a difference above the looser absolute tolerance is
above the tighter one, and the looser relative bound, when it is a number, is at least the
tighter one. -/
theorem Tolerance.violates_of_loosened {t t' : Tolerance} (h : t.LoosenedTo t') {r c : Float}
    (hv : t'.violates r c = true) : t.violates r c = true := by
  unfold Tolerance.violates at hv ⊢
  split at hv
  · simp at hv
  rename_i hnan
  rw [if_neg hnan]
  split at hv
  · rename_i hinf
    rw [if_pos hinf]
    exact hv
  rename_i hinf
  rw [if_neg hinf]
  have hrf : r.isFinite = true := by
    cases hr : r.isFinite <;> simp_all
  obtain ⟨habsf, habs0⟩ := abs_of_isFinite hrf
  simp only [gt_iff_lt, Bool.and_eq_true, decide_eq_true_eq] at hv ⊢
  obtain ⟨ha, hr⟩ := hv
  exact ⟨Float.lt_of_le_of_lt h.atol_le ha, Float.lt_of_le_of_lt
    (Float.mul_le_mul_right h.rtol_nonneg h.rtol_le habsf habs0 (isNaN_eq_false_of_lt_left hr)) hr⟩

/-! ### Columns -/

lemma bump_le_bump {d l l' : Float} (h : l' ≤ l) :
    (if d > l' then d else l') ≤ (if d > l then d else l) := by
  by_cases h1 : d > l
  · rw [if_pos h1]
    by_cases h2 : d > l'
    · rw [if_pos h2]
      exact le_refl_of_isNaN_eq_false (isNaN_eq_false_of_lt_right h1)
    · rw [if_neg h2]
      exact Float.le_of_lt (Float.lt_of_le_of_lt h h1)
  · rw [if_neg h1]
    by_cases h2 : d > l'
    · rw [if_pos h2]
      exact Float.le_of_not_lt (isNaN_eq_false_of_le_right h) (isNaN_eq_false_of_lt_right h2) h1
    · rw [if_neg h2]
      exact h

lemma le_bump {d l l' : Float} (h : l' ≤ l) : l' ≤ (if d > l then d else l) := by
  by_cases h1 : d > l
  · rw [if_pos h1]
    exact Float.le_trans h (Float.le_of_lt h1)
  · rw [if_neg h1]
    exact h

/-- Two scans of the same pairs, under a tolerance and under a looser one, at row `row`: the
looser scan has found a violation only after the tighter one, fewer violations, and a largest
difference no larger. -/
structure ScanLoosened (row : Nat) (acc acc' : Option Nat × Nat × Float) : Prop where
  first_lt : ∀ f ∈ acc.1, f < row
  first_le : ∀ f' ∈ acc'.1, ∃ f ∈ acc.1, f ≤ f'
  count_le : acc'.2.1 ≤ acc.2.1
  largest_le : acc'.2.2 ≤ acc.2.2

lemma scanLoosened_start : ScanLoosened 0 (none, 0, 0.0) (none, 0, 0.0) where
  first_lt := by simp
  first_le := by simp
  count_le := le_rfl
  largest_le := le_refl_of_isNaN_eq_false rfl

lemma first_lt_orElse {first : Option Nat} {row : Nat} (h : ∀ f ∈ first, f < row) :
    ∀ f ∈ first.orElse (fun _ => some row), f < row + 1 := by
  intro f hf
  cases first with
  | none => simp only [Option.orElse, Option.mem_def, Option.some.injEq] at hf; omega
  | some f₀ =>
    simp only [Option.orElse, Option.mem_def, Option.some.injEq] at hf
    have := h f₀ rfl
    omega

lemma first_le_orElse {first first' : Option Nat} {row : Nat} (hlt : ∀ f ∈ first, f < row)
    (hle : ∀ f' ∈ first', ∃ f ∈ first, f ≤ f') (f' : Nat) :
    f' ∈ first' ∨ (first' = none ∧ f' = row) →
      ∃ f ∈ first.orElse (fun _ => some row), f ≤ f' := by
  rintro (hf' | ⟨-, rfl⟩)
  · obtain ⟨f, hf, hff⟩ := hle f' hf'
    rw [Option.mem_def] at hf
    exact ⟨f, by simp [hf, Option.orElse], hff⟩
  · cases first with
    | none => exact ⟨f', rfl, le_rfl⟩
    | some f₀ => exact ⟨f₀, rfl, (hlt f₀ rfl).le⟩

lemma ScanLoosened.step {t t' : Tolerance} (h : t.LoosenedTo t') {row : Nat}
    {acc acc' : Option Nat × Nat × Float} (hs : ScanLoosened row acc acc') (r c : Float) :
    ScanLoosened (row + 1) (scanPairs t row [(r, c)] acc) (scanPairs t' row [(r, c)] acc') := by
  obtain ⟨first, count, largest⟩ := acc
  obtain ⟨first', count', largest'⟩ := acc'
  obtain ⟨hlt, hle, hcount, hlargest⟩ := hs
  simp only at hlt hle hcount hlargest
  by_cases hv : t.violates r c = true
  · simp only [scanPairs, hv, if_true]
    by_cases hv' : t'.violates r c = true
    · -- both scans count the pair
      simp only [hv', if_true]
      refine ⟨first_lt_orElse hlt, fun f' hf' => first_le_orElse hlt hle f' ?_, by simp only; omega,
        bump_le_bump hlargest⟩
      cases first' with
      | none =>
        simp only [Option.orElse, Option.mem_def, Option.some.injEq] at hf'
        exact .inr ⟨rfl, hf'.symm⟩
      | some f₀ => exact .inl hf'
    · -- only the tighter scan counts it
      simp only [Bool.not_eq_true] at hv'
      simp only [hv', Bool.false_eq_true, if_false]
      exact ⟨first_lt_orElse hlt, fun f' hf' => first_le_orElse hlt hle f' (.inl hf'),
        by simp only; omega, le_bump hlargest⟩
  · have hv' : t'.violates r c = false := by
      cases h' : t'.violates r c
      · rfl
      · exact absurd (Tolerance.violates_of_loosened h h') hv
    simp only [Bool.not_eq_true] at hv
    simp only [scanPairs, hv, hv', Bool.false_eq_true, if_false]
    exact ⟨fun f hf => by have := hlt f hf; omega, hle, hcount, hlargest⟩

lemma scanPairs_cons (t : Tolerance) (row : Nat) (p : Float × Float) (ps : List (Float × Float))
    (acc : Option Nat × Nat × Float) :
    scanPairs t row (p :: ps) acc = scanPairs t (row + 1) ps (scanPairs t row [p] acc) := by
  obtain ⟨r, c⟩ := p
  obtain ⟨first, count, largest⟩ := acc
  by_cases hv : t.violates r c = true
  · simp only [scanPairs, hv, if_true]
  · simp only [scanPairs, hv, Bool.false_eq_true, if_false]

/-- **A whole scan**, by induction on the pairs from the step lemma. -/
lemma ScanLoosened.scan {t t' : Tolerance} (h : t.LoosenedTo t') (ps : List (Float × Float)) :
    ∀ {row : Nat} {acc acc' : Option Nat × Nat × Float}, ScanLoosened row acc acc' →
      ScanLoosened (row + ps.length) (scanPairs t row ps acc) (scanPairs t' row ps acc') := by
  induction ps with
  | nil => intro row acc acc' hs; simpa [scanPairs] using hs
  | cons p ps ih =>
    intro row acc acc' hs
    obtain ⟨r, c⟩ := p
    rw [scanPairs_cons t row (r, c) ps acc, scanPairs_cons t' row (r, c) ps acc',
      List.length_cons, show row + (ps.length + 1) = row + 1 + ps.length by omega]
    exact ih (hs.step h r c)

/-- How the verdict on a column changes when the tolerance is loosened: a pass stays a pass, a
violation becomes a pass or a violation found later, fewer times and with a largest difference
no larger, and every other verdict stays. -/
inductive ColumnVerdict.Loosened : ColumnVerdict → ColumnVerdict → Prop
  | passed : Loosened .passed .passed
  | cleared {f n : Nat} {d : Float} : Loosened (.toleranceViolation f n d) .passed
  | fewer {f n f' n' : Nat} {d d' : Float} (hf : f ≤ f') (hn : n' ≤ n) (hd : d' ≤ d) :
      Loosened (.toleranceViolation f n d) (.toleranceViolation f' n' d')
  | rowCountMismatch (r c : Nat) : Loosened (.rowCountMismatch r c) (.rowCountMismatch r c)
  | missingColumn : Loosened .missingColumn .missingColumn
  | extraColumn : Loosened .extraColumn .extraColumn
  | noData : Loosened .noData .noData

/-- **The verdict on a column under a looser tolerance.** -/
theorem columnVerdict_loosened {t t' : Tolerance} (h : t.LoosenedTo t') (a b : Dataset) (k : Nat) :
    (columnVerdict t a b k).Loosened (columnVerdict t' a b k) := by
  unfold columnVerdict
  split
  · exact .noData
  split
  · exact .rowCountMismatch _ _
  have hs := (ScanLoosened.scan h ((a.column k).zip (b.column k)) scanLoosened_start)
  rcases hsc : scanPairs t 0 ((a.column k).zip (b.column k)) (none, 0, 0.0) with
    ⟨first, count, largest⟩
  rcases hsc' : scanPairs t' 0 ((a.column k).zip (b.column k)) (none, 0, 0.0) with
    ⟨first', count', largest'⟩
  rw [hsc, hsc'] at hs
  obtain ⟨-, hle, hcount, hlargest⟩ := hs
  cases first' with
  | none =>
    cases first with
    | none => exact .passed
    | some f => exact .cleared
  | some f' =>
    obtain ⟨f, hf, hff⟩ := hle f' rfl
    rw [Option.mem_def] at hf
    subst hf
    exact .fewer hff hcount hlargest

lemma ColumnVerdict.Loosened.isFailure {v v' : ColumnVerdict} (h : v.Loosened v')
    (hf : v'.isFailure = true) : v.isFailure = true := by
  cases h <;> simp_all [ColumnVerdict.isFailure]

/-! ### Results -/

/-- A column result under a looser tolerance: the same column, labels and label flag, and a
loosened verdict; only the artifact flag may differ. -/
structure ColumnResult.Loosened (r r' : ColumnResult) : Prop where
  index : r'.index = r.index
  referenceLabel : r'.referenceLabel = r.referenceLabel
  currentLabel : r'.currentLabel = r.currentLabel
  labelMismatch : r'.labelMismatch = r.labelMismatch
  verdict : r.verdict.Loosened r'.verdict

lemma ColumnResult.Loosened.failed {r r' : ColumnResult} (h : r.Loosened r')
    (hf : r'.failed = true) : r.failed = true := by
  simp only [ColumnResult.failed, Bool.or_eq_true] at hf ⊢
  rw [h.labelMismatch] at hf
  exact hf.imp id h.verdict.isFailure

lemma ColumnResult.Loosened.unflagged {r r' : ColumnResult} (h : r.Loosened r') :
    r.unflagged.Loosened r'.unflagged :=
  ⟨h.index, h.referenceLabel, h.currentLabel, h.labelMismatch, h.verdict⟩

lemma ColumnResult.Loosened.of_unflagged {r r' : ColumnResult} (h : r.unflagged.Loosened r'.unflagged) :
    r.Loosened r' :=
  ⟨h.index, h.referenceLabel, h.currentLabel, h.labelMismatch, h.verdict⟩

/-- How the verdict on a dataset changes: compared datasets stay compared, column by column
loosened, and datasets on one side only stay so. -/
inductive DatasetVerdict.Loosened : DatasetVerdict → DatasetVerdict → Prop
  | compared {cs cs' : List ColumnResult} (h : List.Forall₂ ColumnResult.Loosened cs cs') :
      Loosened (.compared cs) (.compared cs')
  | missingInCurrent : Loosened .missingInCurrent .missingInCurrent
  | missingInReference : Loosened .missingInReference .missingInReference

/-- A dataset result under a looser tolerance. -/
structure DatasetResult.Loosened (d d' : DatasetResult) : Prop where
  file : d'.file = d.file
  dataset : d'.dataset = d.dataset
  verdict : d.verdict.Loosened d'.verdict

lemma DatasetResult.Loosened.of_unflagged {d d' : DatasetResult}
    (h : d.unflagged.Loosened d'.unflagged) : d.Loosened d' := by
  obtain ⟨f, n, v⟩ := d
  obtain ⟨f', n', v'⟩ := d'
  cases v <;> cases v' <;> obtain ⟨hf, hn, hv⟩ := h <;> cases hv
  · rename_i hcs
    rw [List.forall₂_map_left_iff, List.forall₂_map_right_iff] at hcs
    exact ⟨hf, hn, .compared (hcs.imp fun _ _ => ColumnResult.Loosened.of_unflagged)⟩
  · exact ⟨hf, hn, .missingInCurrent⟩
  · exact ⟨hf, hn, .missingInReference⟩

/-- **What loosening the tolerance does to an outcome.** The same things are compared and the
same files are missing; there are no more failures, so a pass stays a pass; and each dataset
result is loosened: its columns keep their labels, label flags and every verdict other than a
tolerance violation, a pass stays a pass, and a violation under the looser tolerance was a
violation under the tighter one, first found no later, with no more violating rows and a largest
difference no larger. -/
structure Outcome.Loosened (o o' : Outcome) : Prop where
  compared : o'.compared = o.compared
  failed_le : o'.failed ≤ o.failed
  passed : o.passed = true → o'.passed = true
  files : o'.files = o.files
  datasets : List.Forall₂ DatasetResult.Loosened o.datasets o'.datasets

/-! ### Items -/

/-- The items of a comparison under a looser tolerance: the same files and datasets, each
compared column with a loosened result. -/
inductive Item.Loosened : Item → Item → Prop
  | file (r : FileResult) : Loosened (.file r) (.file r)
  | dataset (f n : String) (side : FileVerdict) : Loosened (.dataset f n side) (.dataset f n side)
  | compared (f n : String) {cs cs' : List ColumnItem}
      (h : List.Forall₂ (fun c c' : ColumnItem => c.result.Loosened c'.result) cs cs') :
      Loosened (.compared f n cs) (.compared f n cs')

section Items

variable {t t' : Tolerance} (h : t.LoosenedTo t')
include h

omit h in
lemma referenceColumnItem_result (t : Tolerance) (f n : String) (a b : Dataset) (k : Nat) :
    (referenceColumnItem t f n a b k).result =
      ⟨k, a.label k, b.label k, decide (k < b.columns) && a.label k != b.label k,
        if k < b.columns then columnVerdict t a b k else .missingColumn, false⟩ := rfl

lemma referenceColumnItem_loosened (f n : String) (a b : Dataset) (k : Nat) :
    (referenceColumnItem t f n a b k).result.Loosened (referenceColumnItem t' f n a b k).result := by
  rw [referenceColumnItem_result, referenceColumnItem_result]
  refine ⟨rfl, rfl, rfl, rfl, ?_⟩
  split
  · exact columnVerdict_loosened h a b k
  · exact .missingColumn

lemma columnItems_loosened (f n : String) (a b : Dataset) :
    List.Forall₂ (fun c c' : ColumnItem => c.result.Loosened c'.result)
      (columnItems t f n a b) (columnItems t' f n a b) := by
  refine List.rel_append (forall₂_map_map _ fun k _ => ?_) (forall₂_map_map _ fun k _ => ?_)
  · exact referenceColumnItem_loosened h f n a b k
  · exact ⟨rfl, rfl, rfl, rfl, .extraColumn⟩

lemma collectionItems_loosened (file : String) (R C : Collection) :
    List.Forall₂ Item.Loosened (collectionItems t file R C) (collectionItems t' file R C) := by
  refine List.rel_append (forall₂_map_map _ fun e _ => ?_) (List.forall₂_same.2 fun i hi => ?_)
  · obtain ⟨name, rd⟩ := e
    simp only
    split
    · exact .compared _ _ (columnItems_loosened h _ _ _ _)
    · exact .dataset _ _ _
  · -- the datasets only the current collection has do not depend on the tolerance
    obtain ⟨name, -, hname⟩ := List.mem_filterMap.1 hi
    cases hg : R.get? name <;> simp only [hg, Option.some.injEq, reduceCtorEq] at hname
    subst hname
    exact .dataset _ _ _

lemma storeItems_loosened (RS CS : Store) :
    List.Forall₂ Item.Loosened (storeItems t RS CS) (storeItems t' RS CS) := by
  refine List.rel_append (forall₂_flatMap_flatMap _ fun e _ => ?_)
    (List.forall₂_same.2 fun i hi => ?_)
  · obtain ⟨file, rc⟩ := e
    simp only
    split
    · exact collectionItems_loosened h _ _ _
    · exact .cons (.file _) .nil
  · obtain ⟨⟨file, c⟩, -, he⟩ := List.mem_filterMap.1 hi
    cases hg : RS.get? file <;> simp only [hg, Option.some.injEq, reduceCtorEq] at he
    subst he
    exact .file _

end Items

/-! ### Replays -/

lemma marks_length_le {cs cs' : List ColumnItem}
    (h : List.Forall₂ (fun c c' : ColumnItem => c.result.Loosened c'.result) cs cs') :
    (cs'.flatMap (·.marks)).length ≤ (cs.flatMap (·.marks)).length := by
  induction h with
  | nil => exact le_rfl
  | @cons c c' _ _ hc _ ih =>
    simp only [List.flatMap_cons, List.length_append]
    have hmark : c'.marks.length ≤ c.marks.length := by
      unfold ColumnItem.marks
      cases hf' : c'.result.failed
      · simp
      · simp [hc.failed hf']
    omega

namespace Item.Loosened

variable {i i' : Item} (h : i.Loosened i')

include h

lemma size_eq : i'.size = i.size := by
  cases h with
  | compared f n hcs => exact hcs.length_eq.symm
  | _ => rfl

lemma marks_length_le : i'.marks.length ≤ i.marks.length := by
  cases h with
  | compared f n hcs => exact SimRegress.marks_length_le hcs
  | _ => exact le_rfl

lemma fileResults_eq : i'.fileResults = i.fileResults := by
  cases h <;> rfl

lemma datasetResults : List.Forall₂ DatasetResult.Loosened i.datasetResults i'.datasetResults := by
  cases h with
  | file r => exact .nil
  | dataset f n side =>
    refine .cons ⟨rfl, rfl, ?_⟩ .nil
    cases side
    · exact .missingInCurrent
    · exact .missingInReference
  | compared f n hcs =>
    refine .cons ⟨rfl, rfl, .compared ?_⟩ .nil
    rw [List.forall₂_map_left_iff, List.forall₂_map_right_iff]
    exact hcs.imp fun _ _ hc => hc.unflagged

end Item.Loosened

section Lists

variable {items items' : List Item} (h : List.Forall₂ Item.Loosened items items')
include h

lemma sum_size_loosened : (items'.map (·.size)).sum = (items.map (·.size)).sum := by
  induction h with
  | nil => rfl
  | cons hi _ ih => simp only [List.map_cons, List.sum_cons, hi.size_eq, ih]

lemma marks_length_loosened :
    (items'.flatMap (·.marks)).length ≤ (items.flatMap (·.marks)).length := by
  induction h with
  | nil => exact le_rfl
  | cons hi _ ih =>
    simp only [List.flatMap_cons, List.length_append]
    exact Nat.add_le_add hi.marks_length_le ih

lemma fileResults_loosened : items'.flatMap (·.fileResults) = items.flatMap (·.fileResults) := by
  induction h with
  | nil => rfl
  | cons hi _ ih => simp only [List.flatMap_cons, hi.fileResults_eq, ih]

lemma datasetResults_loosened :
    List.Forall₂ DatasetResult.Loosened (items.flatMap (·.datasetResults))
      (items'.flatMap (·.datasetResults)) := by
  induction h with
  | nil => exact .nil
  | cons hi _ ih => exact List.rel_append hi.datasetResults ih

end Lists

/-- **Replays of loosened items** give loosened outcomes, whatever the cap. -/
theorem replay_loosened (m : Nat) (t t' : Tolerance) {items items' : List Item}
    (h : List.Forall₂ Item.Loosened items items') :
    Outcome.Loosened ((Comparator.mk t m).replay {} items) ((Comparator.mk t' m).replay {} items') := by
  have hfailed := replay_failed (Comparator.mk t m) {} items
  have hfailed' := replay_failed (Comparator.mk t' m) {} items'
  have hmarks := marks_length_loosened h
  refine ⟨?_, ?_, ?_, ?_, ?_⟩
  · rw [replay_compared, replay_compared, sum_size_loosened h]
  · rw [hfailed, hfailed']
    exact Nat.add_le_add_left hmarks _
  · simp only [Outcome.passed, beq_iff_eq, hfailed, hfailed']
    omega
  · rw [replay_files, replay_files, fileResults_loosened h]
  · -- the dataset results, up to artifact flags, are those of the items
    have hun : List.Forall₂ DatasetResult.Loosened
        (((Comparator.mk t m).replay {} items).datasets.map (·.unflagged))
        (((Comparator.mk t' m).replay {} items').datasets.map (·.unflagged)) := by
      rw [replay_datasets, replay_datasets]
      simpa using datasetResults_loosened h
    rw [List.forall₂_map_left_iff, List.forall₂_map_right_iff] at hun
    exact hun.imp fun _ _ => DatasetResult.Loosened.of_unflagged

/-! ### Comparisons -/

/-- **Loosening the tolerance never creates a failure.** Under a tolerance `t'` that loosens
`t`, with the same cap, a comparison of two collections or of two stores compares the same
number of things, reports the same missing files, datasets and columns, row count mismatches,
empty columns and label flags, has no more failures, and passes if it passes under `t`; a column
that passes under `t` passes under `t'`, and one that violates `t'` violates `t`, with its first
violation no earlier, no more violations and a largest difference no larger. -/
theorem looser_tolerance_loosens_outcome {t t' : Tolerance} (h : t.LoosenedTo t') (m : Nat)
    (file : String) (R C : Collection) (RS CS : Store) :
    Outcome.Loosened ((Comparator.mk t m).compare file R C)
        ((Comparator.mk t' m).compare file R C) ∧
      Outcome.Loosened ((Comparator.mk t m).compareStores RS CS)
        ((Comparator.mk t' m).compareStores RS CS) := by
  constructor
  · rw [compare_eq_replay, compare_eq_replay]
    exact replay_loosened m t t' (collectionItems_loosened h file R C)
  · rw [compareStores_eq_replay, compareStores_eq_replay]
    exact replay_loosened m t t' (storeItems_loosened h RS CS)

/-- The default tolerances loosened to one: a column of two rows compared with a column that
differs in its last row, as two collections and as two stores of one file. -/
theorem looser_tolerance_from_default :
    let R := ({} : Collection).insert "x" ⟨1, #[1.0, 2.0], ["t"]⟩
    let C := ({} : Collection).insert "x" ⟨1, #[1.0, 2.5], ["t"]⟩
    let t' : Tolerance := ⟨1.0, 1.0⟩
    Tolerance.default.LoosenedTo t' ∧
      Outcome.Loosened ((Comparator.mk .default 3).compare "a.json" R C)
          ((Comparator.mk t' 3).compare "a.json" R C) ∧
        Outcome.Loosened ((Comparator.mk .default 3).compareStores ⟨[("a.json", R)]⟩ ⟨[("a.json", C)]⟩)
          ((Comparator.mk t' 3).compareStores ⟨[("a.json", R)]⟩ ⟨[("a.json", C)]⟩) := by
  intro R C t'
  have h : Tolerance.default.LoosenedTo t' := ⟨by decide, by decide, by decide, by decide⟩
  exact ⟨h, looser_tolerance_loosens_outcome h 3 "a.json" R C ⟨[("a.json", R)]⟩ ⟨[("a.json", C)]⟩⟩

end SimRegress
