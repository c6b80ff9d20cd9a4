import Mathlib
import SimRegress.Proofs.Comparison.Samples
import SimRegress.Proofs.Comparison.Loosening

/-!
The verdict on a column, against its definition.

For two well-formed tables and a column that both have, the verdict is `noData` when a side has
no rows and a row count mismatch when the counts differ. Otherwise it is decided by the set of
rows whose samples violate the tolerance: `passed` when that set is empty, and otherwise a
tolerance violation at its least row, with its size as the number of violations and the
greatest distance between the samples of a violating row as the largest difference
(`columnVerdict_reference`). Two samples are as far apart as the magnitude of their difference
when both are finite, and infinitely far otherwise, so a distance is never NaN and neither is
the largest difference.

The verdict comes from one scan over the rows with a latch for the first violation, a counter
and a running maximum that starts at zero. After each row these are the least element, the size
and the greatest distance of the violations among the rows read so far (`ScanSummary.step`),
so after all rows they are those of the whole column (`scanSummary_range`). A maximum that never
moved from its start is still right: a distance that is not above zero is zero itself.
-/

namespace SimRegress

open Binary64 Float.Model Float.Model.UnpackedFloat

/-- How far apart a reference and a current sample are: the magnitude of their difference when
both are finite, infinity otherwise. -/
def pairDistance (p : Float × Float) : Float :=
  if p.1.isFinite && p.2.isFinite then (p.2 - p.1).abs else Decimal.infinity

/-- The rows before `n` whose pair of samples violates the tolerance. -/
def violatingRows (t : Tolerance) (pair : Nat → Float × Float) (n : Nat) : Finset Nat :=
  (Finset.range n).filter fun i => t.violates (pair i).1 (pair i).2

/-- The reference and current samples of row `i` in column `k`. -/
def samplePair (a b : Dataset) (k i : Nat) : Float × Float := (a.value i k, b.value i k)

/-- The rows of column `k` whose samples violate the tolerance. -/
def columnViolations (t : Tolerance) (a b : Dataset) (k : Nat) : Finset Nat :=
  violatingRows t (samplePair a b k) a.rows

/-- The verdict on column `k` as its definition states it. -/
inductive ColumnVerdict.Reference (t : Tolerance) (a b : Dataset) (k : Nat) : ColumnVerdict → Prop
  | noData : a.rows = 0 ∨ b.rows = 0 → ColumnVerdict.Reference t a b k .noData
  | rowCountMismatch : a.rows ≠ 0 → b.rows ≠ 0 → a.rows ≠ b.rows →
      ColumnVerdict.Reference t a b k (.rowCountMismatch a.rows b.rows)
  | passed : ¬ (a.rows = 0 ∨ b.rows = 0) → a.rows = b.rows → columnViolations t a b k = ∅ →
      ColumnVerdict.Reference t a b k .passed
  /-- The largest difference is the greatest distance of a violating row, and no NaN. -/
  | toleranceViolation {largest : Float} (h : (columnViolations t a b k).Nonempty) :
      a.rows = b.rows → largest.isNaN = false →
      (∃ i ∈ columnViolations t a b k, largest = pairDistance (samplePair a b k i)) →
      (∀ i ∈ columnViolations t a b k, pairDistance (samplePair a b k i) ≤ largest) →
      ColumnVerdict.Reference t a b k
        (.toleranceViolation ((columnViolations t a b k).min' h) (columnViolations t a b k).card
          largest)

/-! ### Distances -/

lemma isNaN_sub_of_isFinite {x y : Float} (hx : x.isFinite = true) (hy : y.isFinite = true) :
    (x - y).isNaN = false := by
  change (unpack Format.binary64
    (UnpackedFloat.pack Format.binary64
      (UnpackedFloat.sub Format.binary64 x.toModel.unpack y.toModel.unpack))).isNaN
      = false
  rw [isNaN_unpack_pack]
  change x.toModel.unpack.isFinite = true at hx
  change y.toModel.unpack.isFinite = true at hy
  cases hxu : x.toModel.unpack <;> cases hyu : y.toModel.unpack <;>
    simp only [hxu, hyu, UnpackedFloat.isFinite, Bool.false_eq_true] at hx hy
  case zero.zero s s' => simp only [UnpackedFloat.sub]; split <;> rfl
  case zero.finite => rfl
  case finite.zero => rfl
  case finite.finite s m e hm s' m' e' hm' =>
    simp only [UnpackedFloat.sub, UnpackedFloat.normalize, UnpackedFloat.round]
    split <;> first | rfl | exact isNaN_roundWithAccuracy _ _ _ _

lemma isNaN_abs {x : Float} (h : x.isNaN = false) : x.abs.isNaN = false := by
  change (unpack Format.binary64 (UnpackedFloat.pack Format.binary64 x.toModel.unpack.abs)).isNaN
    = false
  rw [isNaN_unpack_pack]
  change x.toModel.unpack.isNaN = false at h
  cases hu : x.toModel.unpack <;> simp_all [UnpackedFloat.abs, UnpackedFloat.isNaN]

lemma isNaN_infinity : Decimal.infinity.isNaN = false := by decide

lemma zero_lt_infinity : (0.0 : Float) < Decimal.infinity := by decide

/-- **A distance is never NaN.** -/
lemma pairDistance_isNaN (p : Float × Float) : (pairDistance p).isNaN = false := by
  unfold pairDistance
  split
  · rename_i hf
    simp only [Bool.and_eq_true] at hf
    exact isNaN_abs (isNaN_sub_of_isFinite hf.2 hf.1)
  · exact isNaN_infinity

lemma abs_eq_zero_of_not_pos {x : Float} (hx : x.isNaN = false) (h : ¬ x.abs > 0.0) :
    x.abs = 0.0 := by
  have habs : x.abs.toModel.unpack = x.toModel.unpack.abs :=
    unpack_pack_of_canonical (canonical_abs (canonical_toModel x))
  have hpos : 0 < value x.abs → x.abs > 0.0 := fun hv =>
    lt_iff_value.2 ⟨rfl, isNaN_abs hx, by simpa using hv⟩
  change x.toModel.unpack.isNaN = false at hx
  cases hu : x.toModel.unpack with
  | notANumber => simp [hu, UnpackedFloat.isNaN] at hx
  | zero s =>
    change Float.ofModel (Float.Model.pack x.toModel.unpack.abs) = 0.0
    rw [hu]
    cases s <;> decide
  | infinity s =>
    refine absurd (hpos ?_) h
    rw [value, habs, hu]
    simp [UnpackedFloat.abs, ticks, Sign.apply]
  | finite s m e hm =>
    refine absurd (hpos ?_) h
    rw [value, habs, hu]
    simpa [UnpackedFloat.abs, ticks, Sign.apply] using magnitude_pos hm e

lemma pairDistance_eq_zero_of_not_pos {p : Float × Float} (h : ¬ pairDistance p > 0.0) :
    pairDistance p = 0.0 := by
  unfold pairDistance at h ⊢
  by_cases hf : (p.1.isFinite && p.2.isFinite) = true
  · rw [if_pos hf] at h ⊢
    simp only [Bool.and_eq_true] at hf
    exact abs_eq_zero_of_not_pos (isNaN_sub_of_isFinite hf.2 hf.1) h
  · rw [if_neg hf] at h
    exact absurd zero_lt_infinity h

/-! ### Violating rows -/

section Rows

variable {t : Tolerance} {pair : Nat → Float × Float}

@[simp] lemma violatingRows_zero : violatingRows t pair 0 = ∅ := rfl

lemma violatingRows_succ (n : Nat) :
    violatingRows t pair (n + 1) =
      if t.violates (pair n).1 (pair n).2 then insert n (violatingRows t pair n)
      else violatingRows t pair n := by
  simp only [violatingRows, Finset.range_add_one, Finset.filter_insert]

lemma lt_of_mem_violatingRows {n i : Nat} (h : i ∈ violatingRows t pair n) : i < n := by
  simp only [violatingRows, Finset.mem_filter, Finset.mem_range] at h
  exact h.1

lemma self_not_mem_violatingRows (n : Nat) : n ∉ violatingRows t pair n :=
  fun h => Nat.lt_irrefl n (lt_of_mem_violatingRows h)

end Rows

/-! ### The scan -/

/-- What the scan has found after the rows before `n`: the least violating row, the number of
violating rows, and their greatest distance, or zero while there is none. -/
structure ScanSummary (t : Tolerance) (pair : Nat → Float × Float) (n : Nat)
    (acc : Option Nat × Nat × Float) : Prop where
  first_none : acc.1 = none ↔ violatingRows t pair n = ∅
  first_least : ∀ f ∈ acc.1, f ∈ violatingRows t pair n ∧ ∀ i ∈ violatingRows t pair n, f ≤ i
  count : acc.2.1 = (violatingRows t pair n).card
  largest_isNaN : acc.2.2.isNaN = false
  le_largest : ∀ i ∈ violatingRows t pair n, pairDistance (pair i) ≤ acc.2.2
  largest_attained : (violatingRows t pair n = ∅ ∧ acc.2.2 = 0.0) ∨
    ∃ i ∈ violatingRows t pair n, acc.2.2 = pairDistance (pair i)

section Scan

variable {t : Tolerance} {pair : Nat → Float × Float}

lemma scanSummary_zero : ScanSummary t pair 0 (none, 0, 0.0) where
  first_none := by simp
  first_least := by simp
  count := rfl
  largest_isNaN := rfl
  le_largest := by simp
  largest_attained := .inl ⟨rfl, rfl⟩

lemma bump_bounds {d l : Float} (hd : d.isNaN = false) (hl : l.isNaN = false) :
    (if d > l then d else l).isNaN = false ∧ d ≤ (if d > l then d else l) ∧
      l ≤ (if d > l then d else l) := by
  by_cases h : d > l
  · simp only [if_pos h]
    exact ⟨hd, le_refl_of_isNaN_eq_false hd, Float.le_of_lt h⟩
  · simp only [if_neg h]
    exact ⟨hl, Float.le_of_not_lt hl hd h, le_refl_of_isNaN_eq_false hl⟩

lemma ScanSummary.step_violating {n : Nat} {first : Option Nat} {count : Nat} {largest : Float}
    (hs : ScanSummary t pair n (first, count, largest)) (hv : t.violates (pair n).1 (pair n).2) :
    ScanSummary t pair (n + 1)
      (first.orElse (fun _ => some n), count + 1,
        if pairDistance (pair n) > largest then pairDistance (pair n) else largest) := by
  obtain ⟨hnone, hleast, hcount, hnan, hle, hattained⟩ := hs
  simp only at hnone hleast hcount hnan hle hattained
  have hV : violatingRows t pair (n + 1) = insert n (violatingRows t pair n) := by
    rw [violatingRows_succ, if_pos hv]
  have hnotin : n ∉ violatingRows t pair n := self_not_mem_violatingRows n
  obtain ⟨hbnan, hdle, hlle⟩ := bump_bounds (pairDistance_isNaN (pair n)) hnan
  refine ⟨?_, ?_, ?_, hbnan, ?_, ?_⟩ <;> simp only [hV]
  · -- after a violation the latch is set
    cases first <;> simp [Option.orElse]
  · intro f hf
    cases first with
    | none =>
      -- the first violation is this row, the only one
      simp only [Option.orElse, Option.mem_def, Option.some.injEq] at hf
      subst hf
      have hempty := hnone.mp rfl
      simp [hempty]
    | some f₀ =>
      simp only [Option.orElse, Option.mem_def, Option.some.injEq] at hf
      subst hf
      obtain ⟨hmem, hmin⟩ := hleast f₀ rfl
      refine ⟨Finset.mem_insert_of_mem hmem, fun i hi => ?_⟩
      rcases Finset.mem_insert.mp hi with rfl | hi
      · exact (lt_of_mem_violatingRows hmem).le
      · exact hmin i hi
  · simp only [Finset.card_insert_of_notMem hnotin, hcount]
  · intro i hi
    rcases Finset.mem_insert.mp hi with rfl | hi
    · exact hdle
    · exact Float.le_trans (hle i hi) hlle
  · right
    by_cases hbump : pairDistance (pair n) > largest
    · exact ⟨n, Finset.mem_insert_self _ _, by rw [if_pos hbump]⟩
    · rw [if_neg hbump]
      rcases hattained with ⟨-, rfl⟩ | ⟨i, hi, hli⟩
      · -- the maximum never moved from zero, so this distance is zero
        exact ⟨n, Finset.mem_insert_self _ _, (pairDistance_eq_zero_of_not_pos hbump).symm⟩
      · exact ⟨i, Finset.mem_insert_of_mem hi, hli⟩

/-- **One row of the scan** keeps the summary of the rows read. -/
lemma ScanSummary.step {n : Nat} {acc : Option Nat × Nat × Float} (hs : ScanSummary t pair n acc) :
    ScanSummary t pair (n + 1) (scanPairs t n [pair n] acc) := by
  obtain ⟨first, count, largest⟩ := acc
  by_cases hv : t.violates (pair n).1 (pair n).2 = true
  · simp only [scanPairs, hv, if_true]
    exact hs.step_violating hv
  · simp only [scanPairs, hv, Bool.false_eq_true, if_false]
    have hV : violatingRows t pair (n + 1) = violatingRows t pair n := by
      rw [violatingRows_succ, if_neg hv]
    obtain ⟨hnone, hleast, hcount, hnan, hle, hattained⟩ := hs
    exact ⟨hV ▸ hnone, hV ▸ hleast, hV ▸ hcount, hnan, hV ▸ hle, hV ▸ hattained⟩

lemma scanPairs_append (row : Nat) (xs ys : List (Float × Float)) (acc : Option Nat × Nat × Float) :
    scanPairs t row (xs ++ ys) acc = scanPairs t (row + xs.length) ys (scanPairs t row xs acc) := by
  induction xs generalizing row acc with
  | nil => rfl
  | cons p xs ih =>
    rw [List.cons_append, scanPairs_cons, ih, scanPairs_cons t row p xs acc]
    simp only [List.length_cons]
    rw [Nat.add_assoc, Nat.add_comm 1]

/-- **The whole scan** of the first `n` rows summarises them, by induction on `n`. -/
lemma scanSummary_range (n : Nat) :
    ScanSummary t pair n (scanPairs t 0 ((List.range n).map pair) (none, 0, 0.0)) := by
  induction n with
  | zero => exact scanSummary_zero
  | succ n ih =>
    rw [List.range_succ, List.map_append, scanPairs_append, List.length_map, List.length_range,
      Nat.zero_add, List.map_singleton]
    exact ih.step

end Scan

/-! ### The verdict -/

/-- **The verdict on a column is its definition.** For two well-formed tables and a column both
have: no data when a side has no rows; a row count mismatch when the counts differ; otherwise
passed when no row violates the tolerance, and else a tolerance violation at the least violating
row, counting the violating rows, with the greatest distance of a violating row, never NaN, as
the largest difference. The tolerance is any. -/
theorem columnVerdict_reference (t : Tolerance) {a b : Dataset} (ha : a.WellFormed)
    (hb : b.WellFormed) {k : Nat} (hka : k < a.columns) (hkb : k < b.columns) :
    (columnVerdict t a b k).Reference t a b k := by
  unfold columnVerdict
  by_cases hz : a.rows = 0 ∨ b.rows = 0
  · rw [if_pos (by simpa using hz)]
    exact .noData hz
  rw [if_neg (by simpa using hz)]
  by_cases hr : a.rows = b.rows
  swap
  · rw [if_pos (by simpa using hr)]
    exact .rowCountMismatch (fun h => hz (.inl h)) (fun h => hz (.inr h)) hr
  rw [if_neg (by simpa using hr)]
  -- both columns run over the same rows, so the scan reads the pairs of samples row by row
  have hpairs : (a.column k).zip (b.column k) = (List.range a.rows).map (samplePair a b k) := by
    rw [Dataset.column_eq ha hka, Dataset.column_eq hb hkb, ← hr, List.zip_map']
    rfl
  have hs : ScanSummary t (samplePair a b k) a.rows
      (scanPairs t 0 ((List.range a.rows).map (samplePair a b k)) (none, 0, 0.0)) :=
    scanSummary_range a.rows
  rw [hpairs]
  rcases hscan : scanPairs t 0 ((List.range a.rows).map (samplePair a b k)) (none, 0, 0.0) with
    ⟨first, count, largest⟩
  rw [hscan] at hs
  cases first with
  | none => exact .passed hz hr (hs.first_none.mp rfl)
  | some f =>
    have hne : (columnViolations t a b k).Nonempty :=
      Finset.nonempty_iff_ne_empty.mpr fun h => by simpa using hs.first_none.mpr h
    obtain ⟨hf, hleast⟩ := hs.first_least f rfl
    -- the latched row is the least violation
    have hmin : f = (columnViolations t a b k).min' hne :=
      le_antisymm (hleast _ (Finset.min'_mem _ _)) (Finset.min'_le _ _ hf)
    have hattained := hs.largest_attained.resolve_left fun h =>
      Finset.nonempty_iff_ne_empty.mp hne h.1
    have hcount : count = (columnViolations t a b k).card := hs.count
    rw [hmin, hcount]
    exact .toleranceViolation hne hr hs.largest_isNaN hattained hs.le_largest

/-- Two tables of two rows whose second column differs in its last row. -/
theorem columnVerdict_reference_two_rows :
    (⟨2, #[0.0, 1.0, 0.1, 2.0], ["time", "x"]⟩ : Dataset).WellFormed ∧
      (⟨2, #[0.0, 1.0, 0.1, 2.5], ["time", "x"]⟩ : Dataset).WellFormed ∧
      1 < (⟨2, #[0.0, 1.0, 0.1, 2.0], ["time", "x"]⟩ : Dataset).columns ∧
      1 < (⟨2, #[0.0, 1.0, 0.1, 2.5], ["time", "x"]⟩ : Dataset).columns ∧
      (columnVerdict Tolerance.default ⟨2, #[0.0, 1.0, 0.1, 2.0], ["time", "x"]⟩
        ⟨2, #[0.0, 1.0, 0.1, 2.5], ["time", "x"]⟩ 1).Reference Tolerance.default
        ⟨2, #[0.0, 1.0, 0.1, 2.0], ["time", "x"]⟩ ⟨2, #[0.0, 1.0, 0.1, 2.5], ["time", "x"]⟩ 1 := by
  have ha : (⟨2, #[0.0, 1.0, 0.1, 2.0], ["time", "x"]⟩ : Dataset).WellFormed :=
    ⟨by decide, by decide⟩
  have hb : (⟨2, #[0.0, 1.0, 0.1, 2.5], ["time", "x"]⟩ : Dataset).WellFormed :=
    ⟨by decide, by decide⟩
  exact ⟨ha, hb, by decide, by decide,
    columnVerdict_reference Tolerance.default ha hb (by decide) (by decide)⟩

end SimRegress
