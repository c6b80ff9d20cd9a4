import Mathlib
import SimRegress.Proofs.Tree.Promote

/-!
Column views, and the series an artifact plots.

A table keeps its samples row after row, and its column `k` walks them from index `k` in steps
of the width. On a well-formed table of `c` columns and `r` rows that walk reads column `k % c`
of the rows `k / c` to `r - 1` (`Dataset.column_exact`): the whole column when `k < c`, and a
column shifted down by `k / c` rows past the last column.

Every artifact a comparison emits concerns a column that both datasets have, and its two series
pair that column with column 0 row by row, on each side (`Artifact.DrawnFrom`,
`artifacts_drawnFrom_compare`, `artifacts_drawnFrom_compareStores`).
-/

namespace SimRegress

/-! ### Walking the samples in strides -/

lemma stride_count {r c k : Nat} (hc : 0 < c) : (r * c - k + c - 1) / c = r - k / c := by
  have hk := Nat.div_add_mod k c
  have hm := Nat.mod_lt k hc
  rw [Nat.mul_comm c] at hk
  apply Nat.div_eq_of_lt_le
  · by_cases hq : k / c ≤ r
    · have hsub : (r - k / c) * c = r * c - k / c * c := Nat.sub_mul _ _ _
      have hle : k / c * c ≤ r * c := Nat.mul_le_mul_right _ hq
      omega
    · simp [Nat.sub_eq_zero_of_le (Nat.le_of_not_le hq)]
  · by_cases hq : k / c < r
    · have hsub : (r - k / c + 1) * c = r * c - k / c * c + c := by
        rw [Nat.add_mul, Nat.sub_mul, one_mul]
      have hle : k / c * c + c ≤ r * c := by
        calc k / c * c + c = (k / c + 1) * c := (Nat.succ_mul _ _).symm
          _ ≤ r * c := Nat.mul_le_mul_right _ hq
      omega
    · -- no stride starts below the end: `k` is past the last sample
      have hle : r * c ≤ k / c * c := Nat.mul_le_mul_right _ (Nat.le_of_not_lt hq)
      rw [Nat.sub_eq_zero_of_le (Nat.le_of_not_lt hq)]
      omega

/-- **Column views are exact.** Column `k` of a well-formed table reads column `k % c` of the
rows from `k / c` on; a table without columns has no samples to read. -/
theorem Dataset.column_exact {d : Dataset} (hd : d.WellFormed) (k : Nat) :
    d.column k = if d.columns = 0 then [] else
      (List.range' (k / d.columns) (d.rows - k / d.columns)).map
        fun i => d.value i (k % d.columns) := by
  split_ifs with hc
  · have hsize : d.data.size = 0 := by rw [hd.size_eq, hc, Nat.mul_zero]
    simp [Dataset.column, hc, hsize]
  · have hpos : 0 < d.columns := Nat.pos_of_ne_zero hc
    have hstep : max d.columns 1 = d.columns := by omega
    simp only [Dataset.column, Dataset.value, hstep, hd.size_eq, stride_count hpos,
      List.range'_eq_map_range, List.map_map]
    congr 1
    funext i
    -- the `i`-th stride lands in row `k / c + i`, at column `k % c`
    have hk := Nat.div_add_mod k d.columns
    simp only [Function.comp_apply]
    congr 1
    rw [Nat.add_mul, Nat.mul_comm d.columns] at *
    omega

lemma Dataset.series_eq {d : Dataset} (hd : d.WellFormed) {k : Nat} (hk : k < d.columns) :
    d.series k = (List.range d.rows).map fun i => (d.value i 0, d.value i k) := by
  rw [Dataset.series, Dataset.column_eq hd (by omega), Dataset.column_eq hd hk, List.zip_map']

/-! ### The artifacts of a comparison -/

/-- An artifact drawn from the datasets `A` (reference) and `B` (current): its column is a column
of both, and each series pairs column 0 with that column, row by row. -/
structure Artifact.DrawnFrom (a : Artifact) (A B : Dataset) : Prop where
  column_lt_reference : a.column < A.columns
  column_lt_current : a.column < B.columns
  reference_eq : a.reference = (List.range A.rows).map fun i => (A.value i 0, A.value i a.column)
  current_eq : a.current = (List.range B.rows).map fun i => (B.value i 0, B.value i a.column)

lemma Artifact.of_drawnFrom {f n : String} {k : Nat} {A B : Dataset} (hA : A.WellFormed)
    (hB : B.WellFormed) (hkA : k < A.columns) (hkB : k < B.columns) :
    (Artifact.of f n k A B).DrawnFrom A B :=
  ⟨hkA, hkB, Dataset.series_eq hA hkA, Dataset.series_eq hB hkB⟩

lemma artifact_of_mem_columnItems {t : Tolerance} {f n : String} {A B : Dataset} {c : ColumnItem}
    (hc : c ∈ columnItems t f n A B) {a : Artifact} (ha : c.artifact = some a) :
    ∃ k, k < A.columns ∧ k < B.columns ∧ a = Artifact.of f n k A B := by
  simp only [columnItems, List.mem_append, List.mem_map] at hc
  rcases hc with ⟨k, hk, rfl⟩ | ⟨k, -, rfl⟩
  · simp only [referenceColumnItem] at ha
    -- a missing column is not plottable, so the column is present on both sides
    by_cases hkB : k < B.columns
    · simp only [hkB, if_true, Option.ite_none_right_eq_some,
        Option.some.injEq] at ha
      exact ⟨k, List.mem_range.mp hk, hkB, ha.2.symm⟩
    · simp [hkB, ColumnVerdict.plottable] at ha
  · simp [extraColumnItem] at ha

lemma mem_of_mem_capped {α : Type} {m n : Nat} {fs : List α} {x : α} (h : x ∈ capped m n fs) :
    x ∈ fs := by
  unfold capped at h
  split at h
  · exact h
  · exact List.mem_of_mem_take h

lemma mem_artifacts_replay {cmp : Comparator} {items : List Item} {a : Artifact}
    (ha : a ∈ (cmp.replay {} items).artifacts) :
    ∃ f n cs c, Item.compared f n cs ∈ items ∧ c ∈ cs ∧ c.artifact = some a := by
  rw [replay_artifacts] at ha
  simp only [List.nil_append, List.mem_filterMap, id_eq, exists_eq_right] at ha
  obtain ⟨i, hi, hmark⟩ := List.mem_flatMap.mp (mem_of_mem_capped ha)
  cases i with
  | file r => simp [Item.marks] at hmark
  | dataset f n side => simp [Item.marks] at hmark
  | compared f n cs =>
    obtain ⟨c, hc, hmark⟩ := List.mem_flatMap.mp hmark
    unfold ColumnItem.marks at hmark
    split at hmark
    · exact ⟨f, n, cs, c, hi, hc, (List.mem_singleton.mp hmark).symm⟩
    · cases hmark

lemma drawnFrom_of_mem_collectionItems {t : Tolerance} {file f n : String} {R C : Collection}
    {cs : List ColumnItem} {c : ColumnItem} {a : Artifact} (hR : R.WellFormed) (hC : C.WellFormed)
    (hi : Item.compared f n cs ∈ collectionItems t file R C) (hc : c ∈ cs)
    (hca : c.artifact = some a) :
    a.file = file ∧ ∃ A B, R.get? a.dataset = some A ∧ C.get? a.dataset = some B ∧
      a.DrawnFrom A B := by
  obtain ⟨rfl, A, B, hA, hB, rfl⟩ := mem_collectionItems_compared hi
  obtain ⟨k, hkA, hkB, rfl⟩ := artifact_of_mem_columnItems hc hca
  exact ⟨rfl, A, B, lookup_of_mem hR.sorted hA, hB,
    Artifact.of_drawnFrom (hR.tables _ hA) (hC.tables _ (mem_of_lookup hB)) hkA hkB⟩

/-- Every artifact of a comparison of two well-formed collections is drawn from the datasets its
name looks up on both sides. -/
theorem artifacts_drawnFrom_compare (cmp : Comparator) (file : String) {R C : Collection}
    (hR : R.WellFormed) (hC : C.WellFormed) :
    ∀ a ∈ (cmp.compare file R C).artifacts, a.file = file ∧
      ∃ A B, R.get? a.dataset = some A ∧ C.get? a.dataset = some B ∧ a.DrawnFrom A B := by
  intro a ha
  rw [compare_eq_replay] at ha
  obtain ⟨f, n, cs, c, hi, hc, hca⟩ := mem_artifacts_replay ha
  exact drawnFrom_of_mem_collectionItems hR hC hi hc hca

/-- Every artifact of a comparison of two well-formed stores is drawn from the datasets its file
and dataset names look up on both sides. -/
theorem artifacts_drawnFrom_compareStores (cmp : Comparator) {RS CS : Store}
    (hRS : RS.WellFormed) (hCS : CS.WellFormed) :
    ∀ a ∈ (cmp.compareStores RS CS).artifacts, ∃ rc cc A B, RS.get? a.file = some rc ∧
      CS.get? a.file = some cc ∧ rc.get? a.dataset = some A ∧ cc.get? a.dataset = some B ∧
      a.DrawnFrom A B := by
  intro a ha
  rw [compareStores_eq_replay] at ha
  obtain ⟨f, n, cs, c, hi, hc, hca⟩ := mem_artifacts_replay ha
  -- the item belongs to a file that both stores hold
  obtain ⟨rc, cc, hrc, hcc, hin⟩ := mem_storeItems_compared hi
  have hR := hRS.tables _ hrc
  have hC := hCS.tables _ (mem_of_lookup hcc)
  obtain ⟨hfile, A, B, hA, hB, hdrawn⟩ := drawnFrom_of_mem_collectionItems hR hC hin hc hca
  rw [hfile]
  exact ⟨rc, cc, A, B, lookup_of_mem hRS.sorted hrc, hcc, hA, hB, hdrawn⟩

end SimRegress

namespace SimRegress

/-- **Column iteration is exact.** On a well-formed table of `c` columns and `r` rows (every table
built from rows is one, `Dataset.ofRows_wellFormed`), column `k` reads nothing when `c = 0`, and
otherwise column `k % c` of the rows `k / c` to `r - 1`. Every artifact a comparison of
well-formed collections or stores emits is drawn from a column that both its datasets have: each
series pairs column 0 with that column, row by row. -/
theorem column_iteration_exact :
    (∀ d : Dataset, d.WellFormed → ∀ k, d.column k = if d.columns = 0 then [] else
      (List.range' (k / d.columns) (d.rows - k / d.columns)).map
        fun i => d.value i (k % d.columns)) ∧
    (∀ (cmp : Comparator) (file : String) (R C : Collection), R.WellFormed → C.WellFormed →
      ∀ a ∈ (cmp.compare file R C).artifacts, a.file = file ∧
        ∃ A B, R.get? a.dataset = some A ∧ C.get? a.dataset = some B ∧ a.DrawnFrom A B) ∧
    (∀ (cmp : Comparator) (RS CS : Store), RS.WellFormed → CS.WellFormed →
      ∀ a ∈ (cmp.compareStores RS CS).artifacts, ∃ rc cc A B, RS.get? a.file = some rc ∧
        CS.get? a.file = some cc ∧ rc.get? a.dataset = some A ∧ cc.get? a.dataset = some B ∧
        a.DrawnFrom A B) :=
  ⟨fun _ hd k => Dataset.column_exact hd k,
    fun cmp file _ _ hR hC => artifacts_drawnFrom_compare cmp file hR hC,
    fun cmp _ _ hRS hCS => artifacts_drawnFrom_compareStores cmp hRS hCS⟩

/-- Column 3 of a table of two columns and three rows is column 1 from the second row on; the
artifacts of comparing it with a table whose last sample differs, alone or in a store, pair
column 0 with column 1. -/
theorem column_iteration_exact_two_columns :
    let d : Dataset := ⟨2, #[0.0, 1.0, 0.5, 2.0, 1.0, 4.0], ["t", "x"]⟩
    let d' : Dataset := ⟨2, #[0.0, 1.0, 0.5, 2.0, 1.0, 5.0], ["t", "x"]⟩
    let R := ({} : Collection).insert "x" d
    let C := ({} : Collection).insert "x" d'
    let RS := ({} : Store).insert "out.json" R
    let CS := ({} : Store).insert "out.json" C
    d.WellFormed ∧ d.column 3 = [2.0, 4.0] ∧ R.WellFormed ∧ C.WellFormed ∧
      (∀ a ∈ ((Comparator.mk .default 0).compare "out.json" R C).artifacts, a.file = "out.json" ∧
        ∃ A B, R.get? a.dataset = some A ∧ C.get? a.dataset = some B ∧ a.DrawnFrom A B) ∧
      RS.WellFormed ∧ CS.WellFormed ∧
      ∀ a ∈ ((Comparator.mk .default 0).compareStores RS CS).artifacts, ∃ rc cc A B,
        RS.get? a.file = some rc ∧ CS.get? a.file = some cc ∧ rc.get? a.dataset = some A ∧
        cc.get? a.dataset = some B ∧ a.DrawnFrom A B := by
  intro d d' R C RS CS
  have hd : d.WellFormed := ⟨by decide, by decide⟩
  have hd' : d'.WellFormed := ⟨by decide, by decide⟩
  have hR : R.WellFormed := Collection.insert_wellFormed Collection.empty_wellFormed hd
  have hC : C.WellFormed := Collection.insert_wellFormed Collection.empty_wellFormed hd'
  have hRS : RS.WellFormed := Store.insert_wellFormed Store.empty_wellFormed hR
  have hCS : CS.WellFormed := Store.insert_wellFormed Store.empty_wellFormed hC
  have hcol := column_iteration_exact.1 d hd 3
  refine ⟨hd, ?_, hR, hC, column_iteration_exact.2.1 _ _ R C hR hC, hRS, hCS,
    column_iteration_exact.2.2 _ RS CS hRS hCS⟩
  rw [hcol]
  simp [d, Dataset.rows, Dataset.value, List.range'_succ]

end SimRegress
