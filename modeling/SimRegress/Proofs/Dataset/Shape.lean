import Mathlib
import SimRegress.Comparison.Engine
import SimRegress.Proofs.Traversal

/-!
Well-formed datasets, collections and stores.

A table built from rows has no more labels than columns and holds a whole number of rows
(`Dataset.WellFormed`), so that its column `k` lists the `k`-th sample of each row
(`Dataset.column_eq`). Collections and stores keep their names strictly increasing, as inserting
keeps them (`keysSorted_insertByName`), so a name stands for one entry. Every collection read from
a document is well-formed (`Collection.parse_wellFormed`).
-/

namespace SimRegress

/-- A table as `Dataset.ofRows` builds it. -/
structure Dataset.WellFormed (d : Dataset) : Prop where
  labels_le : d.labels.length ≤ d.columns
  size_eq : d.data.size = d.rows * d.columns

/-- The names of an association list are strictly increasing. -/
def KeysSorted (l : List (String × α)) : Prop := (l.map (·.1)).Pairwise (· < ·)

/-- A collection as reading and inserting build it: names in order, every table well-formed. -/
structure Collection.WellFormed (c : Collection) : Prop where
  sorted : KeysSorted c.entries
  tables : ∀ e ∈ c.entries, e.2.WellFormed

/-! ### Ordered names -/

section Keys

variable {α : Type} {k : String} {v : α} {l : List (String × α)}

lemma keysSorted_cons :
    KeysSorted ((k, v) :: l) ↔ (∀ e ∈ l, k < e.1) ∧ KeysSorted l := by
  simp [KeysSorted, List.pairwise_cons]

lemma mem_insertByName {e : String × α} (h : e ∈ insertByName k v l) : e = (k, v) ∨ e ∈ l := by
  induction l with
  | nil => simpa [insertByName] using h
  | cons x rest ih =>
    obtain ⟨k', v'⟩ := x
    simp only [insertByName] at h
    split at h
    · simpa using h
    · split at h
      · rcases List.mem_cons.mp h with h | h
        · exact .inl h
        · exact .inr (List.mem_cons_of_mem _ h)
      · rcases List.mem_cons.mp h with h | h
        · exact .inr (h ▸ List.mem_cons_self)
        · rcases ih h with h | h
          · exact .inl h
          · exact .inr (List.mem_cons_of_mem _ h)

/-- **Inserting keeps the names in order.** -/
lemma keysSorted_insertByName (hl : KeysSorted l) : KeysSorted (insertByName k v l) := by
  induction l with
  | nil => simp [insertByName, KeysSorted]
  | cons x rest ih =>
    obtain ⟨k', v'⟩ := x
    obtain ⟨hlt, hrest⟩ := keysSorted_cons.mp hl
    simp only [insertByName]
    split
    · rename_i hkk
      refine keysSorted_cons.mpr ⟨fun e he => ?_, hl⟩
      rcases List.mem_cons.mp he with rfl | he
      · exact hkk
      · exact lt_trans hkk (hlt e he)
    · split
      · rename_i hkk
        rw [beq_iff_eq] at hkk
        subst hkk
        exact keysSorted_cons.mpr ⟨hlt, hrest⟩
      · rename_i hkk1 hkk2
        have hgt : k' < k := lt_of_le_of_ne (not_lt.mp hkk1) (fun h => hkk2 (by simp [h]))
        refine keysSorted_cons.mpr ⟨fun e he => ?_, ih hrest⟩
        rcases mem_insertByName he with rfl | he
        · exact hgt
        · exact hlt e he

lemma lookup_of_mem (hl : KeysSorted l) (h : (k, v) ∈ l) : l.lookup k = some v := by
  induction l with
  | nil => simp at h
  | cons x rest ih =>
    obtain ⟨k', v'⟩ := x
    obtain ⟨hlt, hrest⟩ := keysSorted_cons.mp hl
    rcases List.mem_cons.mp h with h | h
    · simp only [Prod.mk.injEq] at h
      obtain ⟨rfl, rfl⟩ := h
      simp [List.lookup]
    · have hne : k ≠ k' := ne_of_gt (hlt _ h)
      simp [List.lookup, beq_false_of_ne hne, ih hrest h]

lemma mem_of_lookup (h : l.lookup k = some v) : (k, v) ∈ l := by
  obtain ⟨l₁, l₂, rfl, -⟩ := List.lookup_eq_some_iff.mp h
  simp

end Keys

/-! ### Tables built from rows -/

lemma length_of_firstRagged_eq_none {w : Nat} {rows : List (List Float)}
    (h : firstRagged w rows = none) : ∀ r ∈ rows, r.length = w := by
  intro r hr
  obtain ⟨i, hi, rfl⟩ := List.mem_iff_getElem.mp hr
  have hz : (i, rows[i]) ∈ (List.range rows.length).zip rows := by
    have hlen : i < ((List.range rows.length).zip rows).length := by simpa using hi
    simpa [List.getElem_zip] using List.getElem_mem hlen
  have := List.findSome?_eq_none_iff.mp h _ hz
  simpa using this

/-- **Every table built from rows is well-formed.** -/
theorem Dataset.ofRows_wellFormed {name : String} {rows : List (List Float)} {columns : Option Nat}
    {labels : List String} {d : Dataset} (h : Dataset.ofRows name rows columns labels = .ok d) :
    d.WellFormed := by
  simp only [Dataset.ofRows] at h
  split at h
  · cases h
  rename_i hguard
  split at h
  · cases h
  rename_i hragged
  split at h
  · cases h
  rename_i hlabels
  cases h
  have hlen := length_of_firstRagged_eq_none hragged
  -- the rows fill the table: a whole number of rows of the width
  have hsize : rows.flatten.length = rows.length * tableWidth rows columns labels := by
    rw [List.length_flatten, List.map_congr_left hlen, List.map_const', List.sum_replicate_nat]
  refine ⟨Nat.le_of_not_lt hlabels, ?_⟩
  simp only [Dataset.rows, List.size_toArray, hsize]
  by_cases hw : tableWidth rows columns labels = 0
  · simp [hw]
  · simp [hw, Nat.mul_div_cancel _ (Nat.pos_of_ne_zero hw)]

/-- Column `k` of a well-formed table is the `k`-th sample of each row. -/
theorem Dataset.column_eq {d : Dataset} (hd : d.WellFormed) {k : Nat} (hk : k < d.columns) :
    d.column k = (List.range d.rows).map fun i => d.value i k := by
  have hstep : max d.columns 1 = d.columns := by omega
  have hp : (d.rows + 1) * d.columns = d.rows * d.columns + d.columns := Nat.succ_mul _ _
  have hcount : (d.data.size - k + d.columns - 1) / d.columns = d.rows := by
    rw [hd.size_eq]
    apply Nat.div_eq_of_lt_le <;> omega
  simp only [Dataset.column, Dataset.value, hstep, hcount]
  congr 1
  funext i
  rw [Nat.add_comm]

/-! ### Collections -/

lemma Collection.empty_wellFormed : ({} : Collection).WellFormed :=
  ⟨List.Pairwise.nil, by simp⟩

lemma Collection.insert_wellFormed {c : Collection} {name : String} {d : Dataset}
    (hc : c.WellFormed) (hd : d.WellFormed) : (c.insert name d).WellFormed where
  sorted := keysSorted_insertByName hc.sorted
  tables e he := by
    rcases mem_insertByName he with rfl | he
    · exact hd
    · exact hc.tables e he

lemma RawDataset.build_wellFormed {name : String} {raw : RawDataset} {d : Dataset}
    (h : raw.build name = .ok d) : d.WellFormed := by
  unfold RawDataset.build at h
  obtain ⟨rows, -, h⟩ := except_bind_eq_ok h
  exact Dataset.ofRows_wellFormed h

/-- **Every collection read from a document is well-formed.** -/
theorem Collection.parse_wellFormed {text origin : String} {c : Collection}
    (h : Collection.parse text origin = .ok c) : c.WellFormed := by
  simp only [Collection.parse] at h
  split at h
  · cases h
  · refine foldlM_except_invariant (fun acc x acc' hacc hx => ?_) _ {} Collection.empty_wellFormed h
    obtain ⟨name, raw⟩ := x
    obtain ⟨d, hb, hx⟩ := except_bind_eq_ok hx
    cases hx
    exact Collection.insert_wellFormed hacc (RawDataset.build_wellFormed hb)

end SimRegress
