import SimRegress.Proofs.Dataset.Shape

/-!
Samples and columns: when a pair of samples violates a tolerance, and when the verdict on a column
is no failure.

Under valid tolerances a sample never violates them against itself, whatever it is: a NaN, an
infinity, a zero of either sign or any finite number (`Tolerance.violates_self`). This rests on
the logical model of binary64 floats: a finite number minus itself is positive zero, an infinity
equals itself, and a non-negative tolerance is not below positive zero. The verdict on a column of
two well-formed tables is no failure exactly when one side has no rows, or both have as many rows
and no pair of samples of the column violates the tolerance (`columnVerdict_isFailure_eq_false`).
-/

namespace SimRegress

open Float.Model Float.Model.UnpackedFloat

/-! ### Samples -/

lemma unpack_sub_self {x : Float} (h : x.isFinite = true) :
    (x - x).toModel.unpack = .zero .positive := by
  show (Float.Model.pack
    (UnpackedFloat.sub Format.binary64 x.toModel.unpack x.toModel.unpack)).unpack = _
  simp only [Float.isFinite, Float.Model.isFinite] at h
  cases hx : x.toModel.unpack with
  | infinity s => simp [hx, UnpackedFloat.isFinite] at h
  | notANumber => simp [hx, UnpackedFloat.isFinite] at h
  | zero s => cases s <;> rfl
  | finite s m e hm =>
    -- equal mantissas at equal exponents cancel, and a zero sum is positive zero
    simp [UnpackedFloat.sub, UnpackedFloat.decreaseExponent, UnpackedFloat.normalize]
    rfl

lemma unpack_abs_of_zero {x : Float} (h : x.toModel.unpack = .zero .positive) :
    x.abs.toModel.unpack = .zero .positive := by
  show (Float.Model.pack x.toModel.unpack.abs).unpack = _
  rw [h]
  rfl

lemma not_lt_zero_of_nonneg {a b : Float} (ha : 0.0 ≤ a) (hb : b.toModel.unpack = .zero .positive) :
    ¬ a < b := by
  intro h
  change Float.lt a b = true at h
  change Float.le 0.0 a = true at ha
  simp only [Float.lt, Float.le, decide_eq_true_eq] at h ha
  change Float.Model.lt a.toModel b.toModel = true at h
  change Float.Model.le (0.0 : Float).toModel a.toModel = true at ha
  simp only [Float.Model.lt, Float.Model.le, hb] at h ha
  have h0 : (0.0 : Float).toModel.unpack = .zero .positive := rfl
  rw [h0] at ha
  cases hu : a.toModel.unpack with
  | infinity s => cases s <;> simp_all [UnpackedFloat.le, UnpackedFloat.lt, UnpackedFloat.compare]
  | notANumber => simp_all [UnpackedFloat.le, UnpackedFloat.compare]
  | zero s => simp_all [UnpackedFloat.lt, UnpackedFloat.compare]
  | finite s m e hm =>
    cases s <;> simp_all [UnpackedFloat.le, UnpackedFloat.lt, UnpackedFloat.compare]

lemma beq_self_of_not_nan {x : Float} (h : x.isNaN = false) : (x == x) = true := by
  change Float.Model.beq x.toModel x.toModel = true
  simp only [Float.isNaN, Float.Model.isNaN] at h
  simp only [Float.Model.beq, UnpackedFloat.beq]
  cases hu : x.toModel.unpack with
  | infinity s => cases s <;> rfl
  | notANumber => simp [hu, UnpackedFloat.isNaN] at h
  | zero s => cases s <;> rfl
  | finite s m e hm => cases s <;> simp [UnpackedFloat.compare, Ordering.then]

/-- **A sample never violates valid tolerances against itself**, be it NaN, infinite, a zero of
either sign or any finite number. -/
theorem Tolerance.violates_self (t : Tolerance) (ht : t.valid = true) (x : Float) :
    t.violates x x = false := by
  simp only [Tolerance.valid, Bool.and_eq_true, decide_eq_true_eq] at ht
  unfold Tolerance.violates
  by_cases hn : x.isNaN = true
  · rw [if_pos (by rw [hn]; rfl)]
  rw [if_neg (by rw [Bool.eq_false_iff.mpr hn]; decide)]
  by_cases hf : x.isFinite = true
  · -- a finite sample differs from itself by positive zero, below no valid tolerance
    have hd := unpack_abs_of_zero (unpack_sub_self hf)
    rw [if_neg (by rw [hf]; decide)]
    simp only [gt_iff_lt, decide_eq_false (not_lt_zero_of_nonneg ht.1 hd), Bool.false_and]
  · rw [if_pos (by rw [Bool.eq_false_iff.mpr hf]; rfl)]
    simp only [bne, beq_self_of_not_nan (Bool.eq_false_iff.mpr hn), Bool.not_true]

/-! ### Columns -/

lemma scanPairs_first_eq_none (t : Tolerance) (row : Nat) (ps : List (Float × Float))
    (acc : Option Nat × Nat × Float) :
    (scanPairs t row ps acc).1 = none ↔ acc.1 = none ∧ ∀ p ∈ ps, t.violates p.1 p.2 = false := by
  induction ps generalizing row acc with
  | nil => simp [scanPairs]
  | cons p ps ih =>
    obtain ⟨r, c⟩ := p
    obtain ⟨first, count, largest⟩ := acc
    by_cases hv : t.violates r c = true <;> simp [scanPairs, hv, ih]

/-- **The verdict on a column is no failure** exactly when one side has no rows, or both have as
many rows and no pair of samples in the column violates the tolerance. -/
theorem columnVerdict_isFailure_eq_false (t : Tolerance) {a b : Dataset} (ha : a.WellFormed)
    (hb : b.WellFormed) {k : Nat} (hka : k < a.columns) (hkb : k < b.columns) :
    (columnVerdict t a b k).isFailure = false ↔
      a.rows = 0 ∨ b.rows = 0 ∨
        a.rows = b.rows ∧ ∀ i < a.rows, t.violates (a.value i k) (b.value i k) = false := by
  unfold columnVerdict
  by_cases hz : a.rows = 0 ∨ b.rows = 0
  · have hz' : (a.rows == 0 || b.rows == 0) = true := by simpa using hz
    simp only [hz', if_true, ColumnVerdict.isFailure, true_iff]
    rcases hz with h | h
    · exact .inl h
    · exact .inr (.inl h)
  have hz' : (a.rows == 0 || b.rows == 0) = false := by simpa using hz
  rw [if_neg (by simp [hz'])]
  by_cases hr : a.rows = b.rows
  · rw [if_neg (by simp [hr])]
    -- both columns run over the same rows, so the scan reads the pairs of samples row by row
    have hpairs : (a.column k).zip (b.column k) =
        (List.range a.rows).map fun i => (a.value i k, b.value i k) := by
      rw [Dataset.column_eq ha hka, Dataset.column_eq hb hkb, ← hr, List.zip_map']
    have hscan := scanPairs_first_eq_none t 0 ((a.column k).zip (b.column k)) (none, 0, 0.0)
    rw [hpairs] at hscan ⊢
    simp only [List.forall_mem_map, List.mem_range, true_and] at hscan
    rcases hs : scanPairs t 0 ((List.range a.rows).map fun i => (a.value i k, b.value i k))
      (none, 0, 0.0) with ⟨first, count, largest⟩
    rw [hs] at hscan
    cases first with
    | none =>
      simp only [ColumnVerdict.isFailure, true_iff]
      exact .inr (.inr ⟨hr, hscan.mp rfl⟩)
    | some first =>
      have hv : ¬ ∀ i < a.rows, t.violates (a.value i k) (b.value i k) = false :=
        fun h => by simpa using hscan.mpr h
      simp only [ColumnVerdict.isFailure, Bool.true_eq_false, false_iff]
      simp [hz, hv]
  · rw [if_pos (by simp [hr])]
    simp [ColumnVerdict.isFailure, hz, hr]

end SimRegress
