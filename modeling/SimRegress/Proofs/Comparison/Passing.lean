import SimRegress.Proofs.Comparison.Samples
import SimRegress.Proofs.Comparison.Counting

/-!
When a comparison passes.

A comparison of two well-formed collections passes exactly when they hold datasets of the same
names and the two datasets of each name agree (`Dataset.Agree`): the same width and labels, and
either one side has no rows, or both have as many rows and no pair of samples violates the
tolerance (`compare_passed_iff`). The number of failures is that of the failed items, so the
comparison passes when no item fails: no dataset is on one side only and no column fails; a
column fails when it is missing, extra, has another label, or its data fail. Since no sample
violates valid tolerances against itself, every collection passes against itself.
-/

namespace SimRegress

/-- Two tables agree under a tolerance: the same width and labels, and either one has no rows, or
they have as many rows and no pair of samples violates the tolerance. -/
def Dataset.Agree (t : Tolerance) (a b : Dataset) : Prop :=
  a.columns = b.columns ∧ a.labels = b.labels ∧
    (a.rows = 0 ∨ b.rows = 0 ∨
      a.rows = b.rows ∧
        ∀ i < a.rows, ∀ k < a.columns, t.violates (a.value i k) (b.value i k) = false)

lemma Dataset.rows_of_columns_eq_zero {d : Dataset} (h : d.columns = 0) : d.rows = 0 := by
  simp [Dataset.rows, h]

lemma labels_eq_iff {a b : Dataset} {c : Nat} (ha : a.labels.length ≤ c)
    (hb : b.labels.length ≤ c) :
    (∀ k < c, a.label k = b.label k) ↔ a.labels = b.labels := by
  constructor
  · intro h
    apply List.ext_getElem?
    intro k
    by_cases hk : k < c
    · exact h k hk
    · rw [List.getElem?_eq_none (by omega), List.getElem?_eq_none (by omega)]
  · rintro h k -
    simp [Dataset.label, h]

/-! ### Columns -/

section Columns

variable (t : Tolerance) (f n : String) {a b : Dataset}

@[simp] lemma extraColumnItem_failed (k : Nat) : (extraColumnItem b k).result.failed = true := rfl

lemma referenceColumnItem_failed_eq_false (ha : a.WellFormed) (hb : b.WellFormed) {k : Nat}
    (hk : k < a.columns) :
    (referenceColumnItem t f n a b k).result.failed = false ↔
      k < b.columns ∧ a.label k = b.label k ∧
        (a.rows = 0 ∨ b.rows = 0 ∨
          a.rows = b.rows ∧ ∀ i < a.rows, t.violates (a.value i k) (b.value i k) = false) := by
  by_cases hkb : k < b.columns
  · simp only [referenceColumnItem, hkb, decide_true, ColumnResult.failed, Bool.true_and,
      Bool.or_eq_false_iff, bne_eq_false_iff_eq, if_true, true_and]
    rw [columnVerdict_isFailure_eq_false t ha hb hk hkb]
  · simp [referenceColumnItem, hkb, ColumnResult.failed, ColumnVerdict.isFailure]

lemma referenceColumnItem_mem {k : Nat} (hk : k < a.columns) :
    referenceColumnItem t f n a b k ∈ columnItems t f n a b :=
  List.mem_append_left _ (List.mem_map_of_mem (List.mem_range.mpr hk))

lemma extraColumnItem_mem {k : Nat} (hak : a.columns ≤ k) (hkb : k < b.columns) :
    extraColumnItem b k ∈ columnItems t f n a b :=
  List.mem_append_right _ (List.mem_map_of_mem (mem_drop_range.mpr ⟨hak, hkb⟩))

lemma columns_agree_of_pass (ha : a.WellFormed) (hb : b.WellFormed)
    (h : ∀ c ∈ columnItems t f n a b, c.result.failed = false) :
    a.columns = b.columns ∧ ∀ k < a.columns, a.label k = b.label k ∧
      (a.rows = 0 ∨ b.rows = 0 ∨
        a.rows = b.rows ∧ ∀ i < a.rows, t.violates (a.value i k) (b.value i k) = false) := by
  have hcol := fun (k : Nat) (hk : k < a.columns) =>
    (referenceColumnItem_failed_eq_false t f n ha hb hk).mp
      (h _ (referenceColumnItem_mem t f n hk))
  -- an extra column would fail, and so would a missing one
  have hba : b.columns ≤ a.columns := by
    by_contra hlt
    have := h _ (extraColumnItem_mem t f n le_rfl (by omega))
    simp at this
  have hab : a.columns ≤ b.columns := by
    by_contra hlt
    have := (hcol b.columns (by omega)).1
    omega
  exact ⟨le_antisymm hab hba, fun k hk => (hcol k hk).2⟩

lemma rows_agree_of_columns
    (h : ∀ k < a.columns, a.rows = 0 ∨ b.rows = 0 ∨
      a.rows = b.rows ∧ ∀ i < a.rows, t.violates (a.value i k) (b.value i k) = false) :
    a.rows = 0 ∨ b.rows = 0 ∨ a.rows = b.rows ∧
      ∀ i < a.rows, ∀ k < a.columns, t.violates (a.value i k) (b.value i k) = false := by
  by_cases hc : a.columns = 0
  · exact .inl (Dataset.rows_of_columns_eq_zero hc)
  rcases h 0 (by omega) with h0 | h0 | ⟨hr, -⟩
  · exact .inl h0
  · exact .inr (.inl h0)
  · -- column 0 saw rows on both sides, so every column sees them and checks its samples
    refine .inr (.inr ⟨hr, fun i hi k hk => ?_⟩)
    rcases h k hk with h1 | h1 | ⟨-, h1⟩
    · omega
    · omega
    · exact h1 i hi

/-- **The columns of two tables all pass exactly when the tables agree.** -/
theorem columnItems_pass_iff (ha : a.WellFormed) (hb : b.WellFormed) :
    (∀ c ∈ columnItems t f n a b, c.result.failed = false) ↔ Dataset.Agree t a b := by
  constructor
  · intro h
    obtain ⟨hcols, hcol⟩ := columns_agree_of_pass t f n ha hb h
    refine ⟨hcols, ?_, rows_agree_of_columns t fun k hk => (hcol k hk).2⟩
    exact (labels_eq_iff ha.labels_le (hcols ▸ hb.labels_le)).mp fun k hk => (hcol k hk).1
  · simp only [columnItems, List.mem_append, List.mem_map, List.mem_range]
    rintro ⟨hcols, hlabels, hrows⟩ c (⟨k, hk, rfl⟩ | ⟨k, hk, rfl⟩)
    · refine (referenceColumnItem_failed_eq_false t f n ha hb hk).mpr ⟨hcols ▸ hk, ?_, ?_⟩
      · simp [Dataset.label, hlabels]
      · rcases hrows with h0 | h0 | ⟨hr, hv⟩
        · exact .inl h0
        · exact .inr (.inl h0)
        · exact .inr (.inr ⟨hr, fun i hi => hv i hi k hk⟩)
    · rw [mem_drop_range] at hk
      omega

end Columns

lemma Dataset.agree_self {t : Tolerance} (ht : t.valid = true) (a : Dataset) :
    Dataset.Agree t a a :=
  ⟨rfl, rfl, .inr (.inr ⟨rfl, fun _ _ _ _ => Tolerance.violates_self t ht _⟩)⟩

/-! ### Collections -/

lemma ColumnItem.marks_eq_nil {c : ColumnItem} : c.marks = [] ↔ c.result.failed = false := by
  cases h : c.result.failed <;> simp [ColumnItem.marks, h]

lemma compare_passed_iff_marks (cmp : Comparator) (file : String) (R C : Collection) :
    (cmp.compare file R C).passed = true ↔
      ∀ i ∈ collectionItems cmp.tolerance file R C, i.marks = [] := by
  simp only [Outcome.passed, compare_eq_replay, replay_failed, beq_iff_eq, Nat.zero_add,
    List.length_eq_zero_iff, List.flatMap_eq_nil_iff]

lemma collectionItems_marks_nil_iff (t : Tolerance) (file : String) (R C : Collection) :
    (∀ i ∈ collectionItems t file R C, i.marks = []) ↔
      (∀ e ∈ R.entries, ∃ b, C.get? e.1 = some b ∧
          ∀ c ∈ columnItems t file e.1 e.2 b, c.result.failed = false) ∧
        ∀ n ∈ C.names, R.get? n ≠ none := by
  simp only [collectionItems, List.mem_append, List.mem_map, List.mem_filterMap]
  constructor
  · intro h
    constructor
    · rintro ⟨n, a⟩ hmem
      have hi := h _ (.inl ⟨(n, a), hmem, rfl⟩)
      cases hc : C.get? n with
      | none => simp [hc, Item.marks] at hi
      | some b =>
        simp only [hc, Item.marks, List.flatMap_eq_nil_iff, ColumnItem.marks_eq_nil] at hi
        exact ⟨b, rfl, hi⟩
    · intro n hn hr
      have hi := h (.dataset file n .missingInReference) (.inr ⟨n, hn, by simp [hr]⟩)
      simp [Item.marks] at hi
  · rintro ⟨hRC, hCR⟩ i (⟨⟨n, a⟩, hmem, rfl⟩ | ⟨n, hn, hi⟩)
    · obtain ⟨b, hb, hcols⟩ := hRC _ hmem
      simpa [hb, Item.marks, List.flatMap_eq_nil_iff, ColumnItem.marks_eq_nil] using hcols
    · obtain ⟨a, ha⟩ := Option.ne_none_iff_exists'.mp (hCR n hn)
      simp [ha] at hi

/-- A comparison of well-formed collections passes exactly when they have the same names and the
datasets of each name agree. -/
theorem passed_iff_agree (cmp : Comparator) (file : String) {R C : Collection}
    (hR : R.WellFormed) (hC : C.WellFormed) :
    (cmp.compare file R C).passed = true ↔
      R.names = C.names ∧
        ∀ n a b, R.get? n = some a → C.get? n = some b → Dataset.Agree cmp.tolerance a b := by
  rw [compare_passed_iff_marks, collectionItems_marks_nil_iff]
  constructor
  · rintro ⟨hRC, hCR⟩
    refine ⟨List.Pairwise.eq_of_mem_iff hR.sorted hC.sorted fun n => ⟨fun hn => ?_, fun hn => ?_⟩,
      fun n a b ha hb => ?_⟩
    · obtain ⟨⟨n, a⟩, hmem, rfl⟩ := List.mem_map.mp hn
      obtain ⟨b, hb, -⟩ := hRC _ hmem
      exact List.mem_map.mpr ⟨(n, b), mem_of_lookup hb, rfl⟩
    · obtain ⟨a, ha⟩ := Option.ne_none_iff_exists'.mp (hCR n hn)
      exact List.mem_map.mpr ⟨(n, a), mem_of_lookup ha, rfl⟩
    · have hmem := mem_of_lookup ha
      obtain ⟨b', hb', hcols⟩ := hRC _ hmem
      obtain rfl : b' = b := Option.some.inj (hb'.symm.trans hb)
      exact (columnItems_pass_iff _ _ _ (hR.tables _ hmem)
        (hC.tables _ (mem_of_lookup hb))).mp hcols
  · rintro ⟨hnames, hagree⟩
    constructor
    · -- the name is in the current collection too, so it finds a table there
      rintro ⟨n, a⟩ hmem
      have hn : n ∈ C.names := hnames ▸ List.mem_map.mpr ⟨(n, a), hmem, rfl⟩
      obtain ⟨⟨n', b⟩, hbmem, rfl⟩ := List.mem_map.mp hn
      have hb := lookup_of_mem hC.sorted hbmem
      refine ⟨b, hb, (columnItems_pass_iff _ _ _ (hR.tables _ hmem) (hC.tables _ hbmem)).mpr ?_⟩
      exact hagree _ _ _ (lookup_of_mem hR.sorted hmem) hb
    · intro n hn
      rw [← hnames] at hn
      obtain ⟨⟨n', a⟩, hamem, rfl⟩ := List.mem_map.mp hn
      simp [Collection.get?, lookup_of_mem hR.sorted hamem]

/-- **A comparison of well-formed collections under valid tolerances passes exactly when they
have the same names and the datasets of each name agree; so every collection passes against
itself.** -/
theorem compare_passed_iff (cmp : Comparator) (file : String) {R C : Collection}
    (hR : R.WellFormed) (hC : C.WellFormed) (ht : cmp.tolerance.valid = true) :
    ((cmp.compare file R C).passed = true ↔
        R.names = C.names ∧
          ∀ n a b, R.get? n = some a → C.get? n = some b → Dataset.Agree cmp.tolerance a b) ∧
      (cmp.compare file R R).passed = true :=
  ⟨passed_iff_agree cmp file hR hC,
    (passed_iff_agree cmp file hR hR).mpr ⟨rfl, fun n a b ha hb => by
      obtain rfl : a = b := Option.some.inj (ha.symm.trans hb)
      exact Dataset.agree_self ht a⟩⟩

/-- A table of one labelled column and two rows fails against an empty collection and passes
against itself. -/
theorem compare_passed_iff_one_table :
    let R := ({} : Collection).insert "x" ⟨1, #[1.0, 2.0], ["t"]⟩
    ((Comparator.mk .default 3).compare "a.json" R {}).passed = false ∧
      ((Comparator.mk .default 3).compare "a.json" R R).passed = true := by
  intro R
  have hR : R.WellFormed :=
    Collection.insert_wellFormed Collection.empty_wellFormed ⟨by decide, by decide⟩
  have h :=
    compare_passed_iff (Comparator.mk .default 3) "a.json" hR Collection.empty_wellFormed rfl
  refine ⟨Bool.eq_false_iff.mpr fun hp => ?_, h.2⟩
  have hnames := (h.1.mp hp).1
  simp [R, Collection.names, Collection.insert, insertByName] at hnames

end SimRegress
