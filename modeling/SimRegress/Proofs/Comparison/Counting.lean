import SimRegress.Proofs.Comparison.Replay
import SimRegress.Report.Console

/-!
Counting: what the counters of an outcome say about its result lists.

The counters of an outcome agree with its result lists: every compared item is a file or a
dataset on one side only, or a column, and every failure is one of these that failed. So the
failures never outnumber the compared items, passing means that nothing failed, and the printed
failures are the failures, a line each (`Outcome.CountLaws`). All of it holds of every replay,
hence of every comparison (`comparison_count_laws`). A compared dataset holds one result per
column of the wider table, numbered from zero, missing or extra exactly where one side lacks the
column (`ColumnsShaped`).
-/

namespace SimRegress

/-- The columns of a dataset result; none for a dataset on one side only. -/
def DatasetResult.columns (d : DatasetResult) : List ColumnResult :=
  match d.verdict with
  | .compared cs => cs
  | _ => []

/-- The dataset is on one side only. -/
def DatasetResult.isMissing (d : DatasetResult) : Bool :=
  match d.verdict with
  | .compared _ => false
  | _ => true

/-- The datasets on one side only. -/
def Outcome.missingDatasets (o : Outcome) : List DatasetResult := o.datasets.filter (·.isMissing)

/-- The results of the columns of all compared datasets, in order. -/
def Outcome.columnResults (o : Outcome) : List ColumnResult := o.datasets.flatMap (·.columns)

/-- **The laws of counting** of an outcome. -/
structure Outcome.CountLaws (o : Outcome) : Prop where
  compared : o.compared = o.files.length + o.missingDatasets.length + o.columnResults.length
  failed : o.failed = o.files.length + o.missingDatasets.length +
    (o.columnResults.filter (·.failed)).length
  failed_le : o.failed ≤ o.compared
  passed_iff : o.passed = true ↔
    o.files = [] ∧ o.missingDatasets = [] ∧ ∀ c ∈ o.columnResults, c.failed = false
  printed : o.failureLines.length = o.failed

/-- The column results of a dataset `a` compared with `b`: one per column of the wider table,
numbered from zero, missing exactly where only `a` has the column and extra exactly where only
`b` has it. -/
structure ColumnsShaped (a b : Dataset) (rs : List ColumnResult) : Prop where
  indices : rs.map (·.index) = List.range (max a.columns b.columns)
  missing : ∀ r ∈ rs, r.verdict = .missingColumn ↔ b.columns ≤ r.index ∧ r.index < a.columns
  extra : ∀ r ∈ rs, r.verdict = .extraColumn ↔ a.columns ≤ r.index ∧ r.index < b.columns

/-! ### Counting from the result lists -/

@[simp] lemma isMissing_unflagged (d : DatasetResult) : d.unflagged.isMissing = d.isMissing := by
  obtain ⟨f, n, v⟩ := d
  cases v <;> rfl

@[simp] lemma columns_unflagged (d : DatasetResult) :
    d.unflagged.columns = d.columns.map (·.unflagged) := by
  obtain ⟨f, n, v⟩ := d
  cases v <;> rfl

lemma failureLines_length (d : DatasetResult) :
    d.failureLines.length =
      (if d.isMissing then 1 else 0) + (d.columns.filter (·.failed)).length := by
  obtain ⟨f, n, v⟩ := d
  cases v <;> simp [DatasetResult.failureLines, DatasetResult.isMissing, DatasetResult.columns]

lemma flatMap_failureLines_length (ds : List DatasetResult) :
    (ds.flatMap (·.failureLines)).length =
      (ds.filter (·.isMissing)).length + ((ds.flatMap (·.columns)).filter (·.failed)).length := by
  induction ds with
  | nil => rfl
  | cons d ds ih =>
    simp only [List.flatMap_cons, List.length_append, failureLines_length, ih, List.filter_cons,
      List.filter_append]
    split <;> simp <;> omega

lemma missingDatasets_length (o : Outcome) :
    o.missingDatasets.length = ((o.datasets.map (·.unflagged)).filter (·.isMissing)).length := by
  simp [Outcome.missingDatasets, List.filter_map, Function.comp_def]

lemma columnResults_unflagged (o : Outcome) :
    o.columnResults.map (·.unflagged) = (o.datasets.map (·.unflagged)).flatMap (·.columns) := by
  simp [Outcome.columnResults, List.map_flatMap, List.flatMap_map]

lemma failedColumns_length (o : Outcome) :
    (o.columnResults.filter (·.failed)).length =
      (((o.datasets.map (·.unflagged)).flatMap (·.columns)).filter (·.failed)).length := by
  rw [← columnResults_unflagged, List.filter_map, List.length_map]
  rfl

lemma CountLaws.of_counts {o : Outcome}
    (hc : o.compared = o.files.length + o.missingDatasets.length + o.columnResults.length)
    (hf : o.failed = o.files.length + o.missingDatasets.length +
      (o.columnResults.filter (·.failed)).length) : o.CountLaws where
  compared := hc
  failed := hf
  failed_le := by
    have := List.length_filter_le (·.failed) o.columnResults
    omega
  passed_iff := by
    simp only [Outcome.passed, beq_iff_eq, hf, Nat.add_eq_zero_iff, List.length_eq_zero_iff,
      List.filter_eq_nil_iff, Bool.not_eq_true, and_assoc]
  printed := by
    simp only [Outcome.failureLines, List.length_append, List.length_map,
      flatMap_failureLines_length, hf, Outcome.missingDatasets, Outcome.columnResults]
    omega

/-! ### Every replay keeps the laws -/

lemma marks_length_flatMap (cs : List ColumnItem) :
    (cs.flatMap (·.marks)).length = (cs.filter (·.result.failed)).length := by
  induction cs with
  | nil => rfl
  | cons c cs ih =>
    rw [List.flatMap_cons, List.length_append, ih, List.filter_cons]
    by_cases h : c.result.failed <;> simp [ColumnItem.marks, h]
    omega

lemma Item.size_eq (i : Item) :
    i.size = i.fileResults.length + (i.datasetResults.filter (·.isMissing)).length +
      (i.datasetResults.flatMap (·.columns)).length := by
  cases i with
  | file r => rfl
  | dataset f n side => cases side <;> rfl
  | compared f n cs =>
    simp [Item.size, Item.fileResults, Item.datasetResults, DatasetResult.isMissing,
      DatasetResult.columns]

lemma Item.marks_length (i : Item) :
    i.marks.length = i.fileResults.length + (i.datasetResults.filter (·.isMissing)).length +
      ((i.datasetResults.flatMap (·.columns)).filter (·.failed)).length := by
  cases i with
  | file r => rfl
  | dataset f n side => cases side <;> rfl
  | compared f n cs =>
    rw [Item.marks, marks_length_flatMap]
    simp [Item.fileResults, Item.datasetResults, DatasetResult.isMissing, DatasetResult.columns,
      List.filter_map, Function.comp_def]

lemma sum_size (items : List Item) :
    (items.map (·.size)).sum = (items.flatMap (·.fileResults)).length +
      ((items.flatMap (·.datasetResults)).filter (·.isMissing)).length +
      ((items.flatMap (·.datasetResults)).flatMap (·.columns)).length := by
  induction items with
  | nil => rfl
  | cons i items ih =>
    rw [List.map_cons, List.sum_cons, ih, Item.size_eq i]
    simp only [List.flatMap_cons, List.filter_append, List.flatMap_append, List.length_append]
    omega

lemma marks_length (items : List Item) :
    (items.flatMap (·.marks)).length = (items.flatMap (·.fileResults)).length +
      ((items.flatMap (·.datasetResults)).filter (·.isMissing)).length +
      (((items.flatMap (·.datasetResults)).flatMap (·.columns)).filter (·.failed)).length := by
  induction items with
  | nil => rfl
  | cons i items ih =>
    rw [List.flatMap_cons, List.length_append, ih, Item.marks_length i]
    simp only [List.flatMap_cons, List.filter_append, List.flatMap_append, List.length_append]
    omega

/-- **Every replay keeps the laws of counting.** -/
theorem countLaws_replay (cmp : Comparator) (items : List Item) :
    (cmp.replay {} items).CountLaws := by
  have hd : (cmp.replay {} items).datasets.map (·.unflagged) =
      items.flatMap (·.datasetResults) := by
    simpa using replay_datasets cmp {} items
  have hcols : (cmp.replay {} items).columnResults.length =
      ((items.flatMap (·.datasetResults)).flatMap (·.columns)).length := by
    rw [← hd, ← columnResults_unflagged, List.length_map]
  apply CountLaws.of_counts
  · rw [replay_compared, replay_files, missingDatasets_length, hcols, hd, sum_size]
    simp
  · rw [replay_failed, replay_files, missingDatasets_length, failedColumns_length, hd, marks_length]
    simp

/-! ### The columns of a compared dataset -/

lemma columnVerdict_ne_absent (t : Tolerance) (a b : Dataset) (k : Nat) :
    columnVerdict t a b k ≠ .missingColumn ∧ columnVerdict t a b k ≠ .extraColumn := by
  unfold columnVerdict
  split_ifs <;> try split
  all_goals simp

lemma mem_drop_range {k m n : Nat} : k ∈ (List.range n).drop m ↔ m ≤ k ∧ k < n := by
  simp only [List.range_eq_range', List.drop_range', List.mem_range'_1]
  omega

lemma range_append_drop_range (m n : Nat) :
    List.range m ++ (List.range n).drop m = List.range (max m n) := by
  rcases le_total m n with h | h
  · rw [Nat.max_eq_right h]
    conv_rhs => rw [← List.take_append_drop m (List.range n)]
    rw [List.take_range, Nat.min_eq_left h]
  · rw [Nat.max_eq_left h, List.drop_eq_nil_of_le (by simpa using h), List.append_nil]

lemma verdict_of_mem_columnItems {t : Tolerance} {f n : String} {a b : Dataset} {r : ColumnResult}
    (hr : r ∈ (columnItems t f n a b).map (·.result)) :
    (r.verdict = .missingColumn ↔ b.columns ≤ r.index ∧ r.index < a.columns) ∧
      (r.verdict = .extraColumn ↔ a.columns ≤ r.index ∧ r.index < b.columns) := by
  simp only [columnItems, List.map_append, List.map_map, List.mem_append, List.mem_map,
    Function.comp_apply] at hr
  rcases hr with ⟨k, hk, rfl⟩ | ⟨k, hk, rfl⟩
  · rw [List.mem_range] at hk
    by_cases hb : k < b.columns
    · simp [referenceColumnItem, hb, columnVerdict_ne_absent]
      omega
    · simp [referenceColumnItem, hb]
      omega
  · rw [mem_drop_range] at hk
    simp [extraColumnItem]
    omega

lemma columnsShaped_columnItems (t : Tolerance) (f n : String) (a b : Dataset) :
    ColumnsShaped a b ((columnItems t f n a b).map (·.result)) where
  indices := by
    simp [columnItems, referenceColumnItem, extraColumnItem, Function.comp_def,
      range_append_drop_range]
  missing _ hr := (verdict_of_mem_columnItems hr).1
  extra _ hr := (verdict_of_mem_columnItems hr).2

lemma ColumnsShaped.unflagged {a b : Dataset} {rs : List ColumnResult} (h : ColumnsShaped a b rs) :
    ColumnsShaped a b (rs.map (·.unflagged)) where
  indices := by simpa [Function.comp_def, ColumnResult.unflagged] using h.indices
  missing := by
    simp only [List.mem_map]
    rintro _ ⟨r, hr, rfl⟩
    exact h.missing r hr
  extra := by
    simp only [List.mem_map]
    rintro _ ⟨r, hr, rfl⟩
    exact h.extra r hr

lemma ColumnsShaped.of_unflagged {a b : Dataset} {rs : List ColumnResult}
    (h : ColumnsShaped a b (rs.map (·.unflagged))) : ColumnsShaped a b rs where
  indices := by simpa [Function.comp_def, ColumnResult.unflagged] using h.indices
  missing r hr := h.missing r.unflagged (List.mem_map_of_mem hr)
  extra r hr := h.extra r.unflagged (List.mem_map_of_mem hr)

/-! ### Where a compared dataset comes from -/

lemma compared_of_mem_replay {cmp : Comparator} {items : List Item} {d : DatasetResult}
    {rs : List ColumnResult} (hd : d ∈ (cmp.replay {} items).datasets)
    (hv : d.verdict = .compared rs) :
    ∃ cs, Item.compared d.file d.dataset cs ∈ items ∧
      rs.map (·.unflagged) = cs.map (·.result.unflagged) := by
  have hall : (cmp.replay {} items).datasets.map (·.unflagged) =
      items.flatMap (·.datasetResults) := by
    simpa using replay_datasets cmp {} items
  have hmem : d.unflagged ∈ items.flatMap (·.datasetResults) :=
    hall ▸ List.mem_map_of_mem hd
  obtain ⟨f, n, v⟩ := d
  subst hv
  obtain ⟨i, hi, hdi⟩ := List.mem_flatMap.1 hmem
  cases i with
  | file r => simp [Item.datasetResults] at hdi
  | dataset f' n' side =>
    cases side <;>
      simp [Item.datasetResults, DatasetResult.unflagged, FileVerdict.forDataset] at hdi
  | compared f' n' cs =>
    simp only [Item.datasetResults, List.mem_singleton, DatasetResult.unflagged,
      DatasetResult.mk.injEq, DatasetVerdict.compared.injEq] at hdi
    obtain ⟨rfl, rfl, hcs⟩ := hdi
    exact ⟨cs, hi, hcs⟩

lemma mem_collectionItems_compared {t : Tolerance} {file : String} {R C : Collection}
    {f n : String} {cs : List ColumnItem} (h : Item.compared f n cs ∈ collectionItems t file R C) :
    f = file ∧ ∃ a b, (n, a) ∈ R.entries ∧ C.get? n = some b ∧ cs = columnItems t file n a b := by
  simp only [collectionItems, List.mem_append, List.mem_map, List.mem_filterMap] at h
  rcases h with ⟨⟨name, a⟩, hmem, heq⟩ | ⟨name, -, heq⟩
  · cases hc : C.get? name with
    | none => simp [hc] at heq
    | some b =>
      simp only [hc, Item.compared.injEq] at heq
      obtain ⟨rfl, rfl, rfl⟩ := heq
      exact ⟨rfl, a, b, hmem, hc, rfl⟩
  · cases hr : R.get? name <;> simp [hr] at heq

lemma mem_storeItems_compared {t : Tolerance} {RS CS : Store} {f n : String}
    {cs : List ColumnItem} (h : Item.compared f n cs ∈ storeItems t RS CS) :
    ∃ rc cc, (f, rc) ∈ RS.files ∧ CS.get? f = some cc ∧
      Item.compared f n cs ∈ collectionItems t f rc cc := by
  simp only [storeItems, List.mem_append, List.mem_flatMap, List.mem_filterMap] at h
  rcases h with ⟨⟨file, rc⟩, hmem, hin⟩ | ⟨⟨file, _⟩, -, heq⟩
  · cases hc : CS.get? file with
    | none => simp [hc] at hin
    | some cc =>
      simp only [hc] at hin
      obtain ⟨rfl, -⟩ := mem_collectionItems_compared hin
      exact ⟨rc, cc, hmem, hc, hin⟩
  · cases hr : RS.get? file <;> simp [hr] at heq

lemma columnsShaped_of_unflagged_eq {t : Tolerance} {f n : String} {a b : Dataset}
    {rs : List ColumnResult}
    (h : rs.map (·.unflagged) = (columnItems t f n a b).map (·.result.unflagged)) :
    ColumnsShaped a b rs := by
  apply ColumnsShaped.of_unflagged
  have hm : (columnItems t f n a b).map (·.result.unflagged) =
      ((columnItems t f n a b).map (·.result)).map (·.unflagged) := by
    simp [Function.comp_def]
  rw [h, hm]
  exact (columnsShaped_columnItems t f n a b).unflagged

/-- **The laws of counting of every comparison.** The counters of a comparison of two
collections, or of two stores, agree with its result lists; and every compared dataset holds one
result per column of the wider of the two datasets it compares, missing or extra exactly where
one of them lacks the column. -/
theorem comparison_count_laws (cmp : Comparator) (file : String) (R C : Collection)
    (RS CS : Store) :
    (cmp.compare file R C).CountLaws ∧ (cmp.compareStores RS CS).CountLaws ∧
    (∀ d ∈ (cmp.compare file R C).datasets, ∀ rs, d.verdict = .compared rs →
      ∃ a b, (d.dataset, a) ∈ R.entries ∧ C.get? d.dataset = some b ∧ ColumnsShaped a b rs) ∧
    (∀ d ∈ (cmp.compareStores RS CS).datasets, ∀ rs, d.verdict = .compared rs →
      ∃ rc cc a b, (d.file, rc) ∈ RS.files ∧ CS.get? d.file = some cc ∧
        (d.dataset, a) ∈ rc.entries ∧ cc.get? d.dataset = some b ∧ ColumnsShaped a b rs) := by
  refine ⟨?_, ?_, ?_, ?_⟩
  · rw [compare_eq_replay]
    exact countLaws_replay cmp _
  · rw [compareStores_eq_replay]
    exact countLaws_replay cmp _
  · intro d hd rs hv
    rw [compare_eq_replay] at hd
    obtain ⟨cs, hcs, hrs⟩ := compared_of_mem_replay hd hv
    obtain ⟨-, a, b, ha, hb, rfl⟩ := mem_collectionItems_compared hcs
    exact ⟨a, b, ha, hb, columnsShaped_of_unflagged_eq hrs⟩
  · intro d hd rs hv
    rw [compareStores_eq_replay] at hd
    obtain ⟨cs, hcs, hrs⟩ := compared_of_mem_replay hd hv
    obtain ⟨rc, cc, hrc, hcc, hin⟩ := mem_storeItems_compared hcs
    obtain ⟨-, a, b, ha, hb, rfl⟩ := mem_collectionItems_compared hin
    exact ⟨rc, cc, a, b, hrc, hcc, ha, hb, columnsShaped_of_unflagged_eq hrs⟩

end SimRegress
