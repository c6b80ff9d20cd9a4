import Mathlib
import SimRegress.Proofs.Dataset.Roundtrip

/-!
Which tables are accepted, and which error a rejected one gets.

The width of a table is that of its first row, else the width given, else the number of labels.
Building it from rows succeeds exactly when the rows are empty or the first has values, every row
is as wide, and the labels are no more than the width; the table then holds the rows as given
(`OfRowsLaw`). A rejected table gets the first failed check in a fixed order: rows without values,
then the least row of another width, then too many labels. A dataset of a document first reads
its samples, row by row, and the first sample string that is no number is the error before any
check of the table (`BuildLaw`). A document whose JSON reads succeeds exactly when every dataset
builds, and otherwise fails with the error of the failing dataset of least name, since the reader
hands the datasets over in name order (`ParseLaw`).
-/

namespace SimRegress

/-! ### What a reader returns -/

namespace Json

/-- Every value the reader returns, from any cursor, satisfies `P`. -/
def Reader.Yields (P : α → Prop) (r : Reader α) : Prop :=
  ∀ c a c', r.runAt c = (.ok a, c') → P a

lemma runAt_throw (e : Failure) (c : Cursor) : (throw e : Reader α).runAt c = (.error e, c) := rfl

namespace Reader.Yields

variable {β : Type} {P : α → Prop} {Q : β → Prop}

lemma pure {a : α} (h : P a) : Reader.Yields P (Pure.pure a) := by
  intro c a' c' hr
  rw [runAt_pure] at hr
  cases hr
  exact h

lemma bind {r : Reader α} {f : α → Reader β} (hr : Reader.Yields P r)
    (hf : ∀ a, P a → Reader.Yields Q (f a)) : Reader.Yields Q (r >>= f) := by
  intro c b c' h
  rw [runAt_bind] at h
  rcases hrc : r.runAt c with ⟨_ | a, c₁⟩ <;> rw [hrc] at h
  · cases h
  · exact hf a (hr c a c₁ hrc) c₁ b c' h

lemma bind_any {r : Reader α} {f : α → Reader β} (hf : ∀ a, Reader.Yields Q (f a)) :
    Reader.Yields Q (r >>= f) :=
  bind (P := fun _ => True) (fun _ _ _ _ => trivial) fun a _ => hf a

lemma throw (e : Failure) : Reader.Yields P (MonadExcept.throw e) := by
  intro c a c' hr
  rw [runAt_throw] at hr
  cases hr

lemma failAt (f : Fault) (off : Nat) : Reader.Yields P (Json.failAt f off) := throw _

lemma failLoose (f : Fault) : Reader.Yields P (Json.failLoose f) := throw _

lemma failHere (f : Fault) : Reader.Yields P (Json.failHere f) := bind_any fun _ => failAt _ _

lemma failAhead (f : Fault) : Reader.Yields P (Json.failAhead f) := bind_any fun _ => failAt _ _

lemma mismatch (expecting : String) : Reader.Yields P (Json.mismatch expecting) := by
  unfold Json.mismatch
  refine bind_any fun next => ?_
  dsimp only
  split <;> repeat (first | exact failHere _ | exact failAhead _ | split |
    refine bind_any fun _ => ?_)

lemma fixPosition {x : Reader α} (h : Reader.Yields P x) : Reader.Yields P (Json.fixPosition x) := by
  intro c a c' hr
  rw [Json.fixPosition, runAt_tryCatch] at hr
  rcases hx : x.runAt c with ⟨e | a', c₁⟩ <;> simp only [hx] at hr
  · -- the handler only moves the failure to the current offset
    split at hr
    · rw [runAt_throw] at hr
      cases hr
    · rw [runAt_bind, runAt_get] at hr
      exact failAt _ _ _ _ _ hr
  · cases hr
    exact h _ _ _ hx

lemma attempt_ok {x : Reader α} (h : Reader.Yields P x) :
    Reader.Yields (fun r => ∀ a, r = .ok a → P a) (Json.attempt x) := by
  intro c r c' hr a hra
  subst hra
  rw [Json.attempt, runAt_tryCatch, runAt_map] at hr
  rcases hx : x.runAt c with ⟨e | a', c₁⟩ <;> rw [hx] at hr
  · cases hr
  · cases hr
    exact h _ _ _ hx

lemma thenClose {body : Reader α} {close : Reader Unit} (h : Reader.Yields P body) :
    Reader.Yields P (Json.thenClose body close) := by
  unfold Json.thenClose
  refine bind (attempt_ok h) fun r hr => bind_any fun rc => ?_
  -- the body's value is returned only when both the body and the close succeeded
  split
  · exact pure (hr _ rfl)
  · exact throw _
  · exact throw _

lemma nested {body : Reader α} {close : Reader Unit} (remaining : Nat)
    (h : Reader.Yields P body) : Reader.Yields P (Json.nested remaining body close) := by
  unfold Json.nested
  split
  · exact failAhead _
  · exact bind_any fun _ => thenClose h

end Reader.Yields

end Json

open Json

/-! ### The datasets of a document come in name order -/

section NameOrder

lemma keysSorted_foldl_insertByName {α : Type} (ms : List (String × α)) :
    ∀ acc : List (String × α), KeysSorted acc →
      KeysSorted (ms.foldl (fun acc kv => insertByName kv.1 kv.2 acc) acc) := by
  induction ms with
  | nil => exact fun _ h => h
  | cons kv ms ih => exact fun acc h => ih _ (keysSorted_insertByName h)

lemma yields_membersByName {α : Type} (value : Reader α) :
    Reader.Yields KeysSorted (membersByName value) :=
  Reader.Yields.bind_any fun ms => .pure (keysSorted_foldl_insertByName ms [] List.Pairwise.nil)

lemma yields_readDatasetMap (remaining : Nat) :
    Reader.Yields KeysSorted (readDatasetMap remaining) := by
  unfold readDatasetMap
  refine .fixPosition (.bind_any fun next => ?_)
  split
  · exact .failAhead _
  · exact .nested _ (yields_membersByName _)
  · exact .mismatch _

/-- The map of datasets a document holds, once read, if it was read. -/
def SortedIfRead (s : Option (List (String × RawDataset))) : Prop := ∀ l ∈ s, KeysSorted l

lemma sortedIfRead_none : SortedIfRead none := fun _ h => by cases h

lemma keysSorted_getD {s : Option (List (String × RawDataset))} (hs : SortedIfRead s) :
    KeysSorted (s.getD []) := by
  cases s with
  | none => exact List.Pairwise.nil
  | some l => exact hs l rfl

lemma yields_documentField (remaining : Nat) (s : Option (List (String × RawDataset)))
    (key : String) (hs : SortedIfRead s) :
    Reader.Yields SortedIfRead (documentField remaining s key) := by
  unfold documentField
  split
  · split
    · exact .failLoose _
    · refine .bind_any fun _ => .bind (yields_readDatasetMap remaining) fun l hl => .pure ?_
      intro l' hl'
      cases hl'
      exact hl
  · exact .bind_any fun _ => .bind_any fun _ => .pure hs

lemma yields_fieldsLoop {σ : Type} {I : σ → Prop} {step : σ → String → Reader σ}
    (hstep : ∀ s k, I s → Reader.Yields I (step s k)) :
    ∀ (fuel : Nat) (first : Bool) (s : σ), I s → Reader.Yields I (fieldsLoop step fuel first s)
  | 0, _, s, hs => .pure hs
  | fuel + 1, first, s, hs => by
    simp only [fieldsLoop]
    refine .bind_any fun more => ?_
    split
    · exact .bind_any fun k => .bind (hstep s k hs) fun s' hs' =>
        yields_fieldsLoop hstep fuel false s' hs'
    · exact .pure hs

lemma yields_readDocument : Reader.Yields KeysSorted readDocument := by
  have hobject : ∀ remaining, Reader.Yields KeysSorted (documentFromObject remaining) := by
    intro remaining
    unfold documentFromObject fields
    exact .bind (.bind_any fun _ => yields_fieldsLoop (yields_documentField remaining) _ _ none
      sortedIfRead_none) fun d hd => .pure (keysSorted_getD hd)
  have harray : ∀ remaining, Reader.Yields KeysSorted (documentFromArray remaining) := by
    intro remaining
    unfold documentFromArray arrayField
    refine .bind (Q := KeysSorted) (P := fun p => SortedIfRead p.1) ?_ fun p hp => ?_
    · refine .bind_any fun more => ?_
      split
      · exact .bind (yields_readDatasetMap remaining) fun l hl => .pure fun l' hl' => by
          cases hl'
          exact hl
      · exact .pure sortedIfRead_none
    · exact .pure (keysSorted_getD hp)
  unfold readDocument readDocumentValue
  refine .bind (.fixPosition (.bind_any fun next => ?_)) fun d hd =>
    .bind_any fun _ => .pure hd
  split
  · exact .failAhead _
  · exact .nested _ (harray _)
  · exact .nested _ (hobject _)
  · exact .mismatch _

/-- **The datasets of a document are read in name order**, each name once. -/
theorem readDocument_sorted {text : String} {raws : List (String × RawDataset)}
    (h : (Reader.runOn readDocument text).1 = .ok raws) : KeysSorted raws :=
  yields_readDocument _ raws _ (Prod.ext h rfl)

end NameOrder


/-! ### Tables built from rows -/

section OfRows

variable {name : String} {rows : List (List Float)} {columns : Option Nat} {labels : List String}

lemma firstRagged_cons (w : Nat) (r : List Float) (rs : List (List Float)) :
    firstRagged w (r :: rs) =
      if r.length = w then (firstRagged w rs).map fun p => (p.1 + 1, p.2) else some (0, r.length) := by
  simp only [firstRagged, List.length_cons, List.range_succ_eq_map, List.zip_cons_cons,
    List.findSome?_cons, List.zip_map_left, List.findSome?_map]
  by_cases h : r.length = w
  · simp only [h, beq_self_eq_true, if_true, List.map_findSome?]
    congr 1
    funext ⟨i, x⟩
    simp only [Function.comp, Prod.map, id]
    split <;> simp_all
  · simp [h]

lemma firstRagged_of_least {w : Nat} :
    ∀ {rows : List (List Float)} {i : Nat} (hi : i < rows.length), rows[i].length ≠ w →
      (∀ j (hj : j < i), rows[j].length = w) → firstRagged w rows = some (i, rows[i].length)
  | [], _, hi, _, _ => absurd hi (Nat.not_lt_zero _)
  | r :: rs, 0, _, hne, _ => by
    simp only [List.getElem_cons_zero] at hne
    simp [firstRagged_cons, hne]
  | r :: rs, i + 1, hi, hne, hbefore => by
    have hi' : i < rs.length := Nat.lt_of_succ_lt_succ hi
    have hr : r.length = w := hbefore 0 (Nat.succ_pos i)
    have hrs : firstRagged w rs = some (i, rs[i].length) :=
      firstRagged_of_least hi' (by simpa using hne) fun j hj => by
        simpa using hbefore (j + 1) (by omega)
    simp [firstRagged_cons, hr, hrs]

lemma nonemptyWidth_iff :
    (tableWidth rows columns labels = 0 → rows = []) ↔ ∀ r ∈ rows.head?, r ≠ [] := by
  cases rows with
  | nil => simp
  | cons r rs => simp [tableWidth, List.length_eq_zero_iff]

lemma getElem?_flatten {w : Nat} :
    ∀ {rows : List (List Float)}, (∀ r ∈ rows, r.length = w) → ∀ {i j : Nat} (hi : i < rows.length)
      (hj : j < rows[i].length), rows.flatten[i * w + j]? = some rows[i][j]
  | [], _, _, _, hi, _ => absurd hi (Nat.not_lt_zero _)
  | r :: rs, hw, 0, j, _, hj => by
    simp only [List.flatten_cons, Nat.zero_mul, Nat.zero_add, List.getElem_cons_zero]
    exact (List.getElem?_append_left hj).trans (List.getElem?_eq_getElem hj)
  | r :: rs, hw, i + 1, j, hi, hj => by
    have hr : r.length = w := hw r List.mem_cons_self
    have hshift : (i + 1) * w + j = r.length + (i * w + j) := by rw [hr, Nat.succ_mul]; omega
    simp only [List.flatten_cons, List.getElem_cons_succ, hshift]
    rw [List.getElem?_append_right (Nat.le_add_right _ _), Nat.add_sub_cancel_left]
    exact getElem?_flatten (fun r' hr' => hw r' (List.mem_cons_of_mem _ hr'))
      (Nat.lt_of_succ_lt_succ hi) hj

lemma table_of_rows (labels : List String) {w : Nat} (hw : ∀ r ∈ rows, r.length = w) (hempty : w = 0 → rows = []) :
    let d : Dataset := ⟨w, rows.flatten.toArray, labels⟩
    d.rows = rows.length ∧ d.data.size = rows.length * w ∧
      ∀ i (hi : i < rows.length) j (hj : j < rows[i].length), d.value i j = rows[i][j] := by
  intro d
  have hsize : d.data.size = rows.length * w := by
    simp only [d, List.size_toArray, List.length_flatten]
    rw [List.map_congr_left hw, List.map_const', List.sum_replicate_nat]
  refine ⟨?_, hsize, fun i hi j hj => ?_⟩
  · simp only [Dataset.rows, hsize, d]
    by_cases h0 : w = 0
    · simp [h0, hempty h0]
    · simp [h0, Nat.mul_div_cancel _ (Nat.pos_of_ne_zero h0)]
  · simp only [Dataset.value, d, Array.getD_eq_getD_getElem?, List.getElem?_toArray,
      getElem?_flatten hw hi hj, Option.getD_some]

/-- Building a table from rows: when it succeeds, what the table holds, and which error each
kind of rejected rows gets. The width is `tableWidth rows columns labels`. -/
structure OfRowsLaw (name : String) (rows : List (List Float)) (columns : Option Nat)
    (labels : List String) : Prop where
  ok_iff : (∃ d, Dataset.ofRows name rows columns labels = .ok d) ↔
    (∀ r ∈ rows.head?, r ≠ []) ∧ (∀ r ∈ rows, r.length = tableWidth rows columns labels) ∧
      labels.length ≤ tableWidth rows columns labels
  table : ∀ d, Dataset.ofRows name rows columns labels = .ok d →
    d.columns = tableWidth rows columns labels ∧ d.rows = rows.length ∧ d.labels = labels ∧
      d.data.size = rows.length * tableWidth rows columns labels ∧
      ∀ i (hi : i < rows.length) j (hj : j < rows[i].length), d.value i j = rows[i][j]
  emptyRows : tableWidth rows columns labels = 0 → rows ≠ [] →
    Dataset.ofRows name rows columns labels = .error (.emptyRows name rows.length)
  raggedRow : ∀ i (hi : i < rows.length), tableWidth rows columns labels ≠ 0 →
    rows[i].length ≠ tableWidth rows columns labels →
    (∀ j (hj : j < i), rows[j].length = tableWidth rows columns labels) →
    Dataset.ofRows name rows columns labels =
      .error (.raggedRow name i rows[i].length (tableWidth rows columns labels))
  tooManyLabels : (tableWidth rows columns labels = 0 → rows = []) →
    (∀ r ∈ rows, r.length = tableWidth rows columns labels) →
    tableWidth rows columns labels < labels.length →
    Dataset.ofRows name rows columns labels =
      .error (.tooManyLabels name labels.length (tableWidth rows columns labels))

lemma ofRows_emptyRows (hw : tableWidth rows columns labels = 0) (hr : rows ≠ []) :
    Dataset.ofRows name rows columns labels = .error (.emptyRows name rows.length) := by
  simp [Dataset.ofRows, hw, hr]

lemma ofRows_guard (hw : tableWidth rows columns labels = 0 → rows = []) :
    (tableWidth rows columns labels == 0 && !rows.isEmpty) = false := by
  by_cases h0 : tableWidth rows columns labels = 0
  · simp [hw h0]
  · simp [h0]

lemma ofRows_of_ragged (hw : tableWidth rows columns labels = 0 → rows = []) {i found : Nat}
    (hf : firstRagged (tableWidth rows columns labels) rows = some (i, found)) :
    Dataset.ofRows name rows columns labels =
      .error (.raggedRow name i found (tableWidth rows columns labels)) := by
  simp only [Dataset.ofRows, ofRows_guard hw, hf, Bool.false_eq_true, if_false]

lemma ofRows_of_widths (hw : tableWidth rows columns labels = 0 → rows = [])
    (hlen : ∀ r ∈ rows, r.length = tableWidth rows columns labels) :
    Dataset.ofRows name rows columns labels =
      if labels.length > tableWidth rows columns labels then
        .error (.tooManyLabels name labels.length (tableWidth rows columns labels))
      else .ok ⟨tableWidth rows columns labels, rows.flatten.toArray, labels⟩ := by
  simp only [Dataset.ofRows, ofRows_guard hw, firstRagged_eq_none hlen, Bool.false_eq_true,
    if_false]

lemma ofRows_eq_ok {d : Dataset} (hd : Dataset.ofRows name rows columns labels = .ok d) :
    (tableWidth rows columns labels = 0 → rows = []) ∧
      (∀ r ∈ rows, r.length = tableWidth rows columns labels) ∧
      labels.length ≤ tableWidth rows columns labels ∧
      d = ⟨tableWidth rows columns labels, rows.flatten.toArray, labels⟩ := by
  have hw : tableWidth rows columns labels = 0 → rows = [] := fun h0 => by
    by_contra hr
    rw [ofRows_emptyRows h0 hr] at hd
    cases hd
  rcases hf : firstRagged (tableWidth rows columns labels) rows with _ | ⟨i, found⟩
  · have hlen := length_of_firstRagged_eq_none hf
    rw [ofRows_of_widths hw hlen] at hd
    by_cases hgt : labels.length > tableWidth rows columns labels
    · rw [if_pos hgt] at hd
      cases hd
    · rw [if_neg hgt] at hd
      cases hd
      exact ⟨hw, hlen, Nat.le_of_not_lt hgt, rfl⟩
  · rw [ofRows_of_ragged hw hf] at hd
    cases hd

/-- **Building a table from rows** succeeds exactly on well-formed rows, keeps them as given, and
reports the first failed check. -/
theorem Dataset.ofRows_law (name : String) (rows : List (List Float)) (columns : Option Nat)
    (labels : List String) : OfRowsLaw name rows columns labels := by
  refine ⟨⟨?_, ?_⟩, ?_, ofRows_emptyRows, ?_, ?_⟩
  · rintro ⟨d, hd⟩
    obtain ⟨hw, hlen, hle, -⟩ := ofRows_eq_ok hd
    exact ⟨nonemptyWidth_iff.mp hw, hlen, hle⟩
  · rintro ⟨hfirst, hlen, hle⟩
    exact ⟨_, by rw [ofRows_of_widths (nonemptyWidth_iff.mpr hfirst) hlen,
      if_neg (Nat.not_lt_of_le hle)]⟩
  · intro d hd
    obtain ⟨hw, hlen, -, rfl⟩ := ofRows_eq_ok hd
    obtain ⟨hrows, hsize, hvalue⟩ := table_of_rows labels hlen hw
    exact ⟨rfl, hrows, rfl, hsize, hvalue⟩
  · intro i hi hw0 hne hbefore
    exact ofRows_of_ragged (fun h => absurd h hw0) (firstRagged_of_least hi hne hbefore)
  · intro hw hlen hgt
    rw [ofRows_of_widths hw hlen, if_pos hgt]

end OfRows


/-! ### Datasets of a document -/

section Except

variable {α β σ ε : Type}

lemma mapM_rows_error {g : α → Except ε β} {e : ε} (bad : α) (hbad : g bad = .error e) :
    ∀ (rows : List (List α)) (pre post : List α), rows.flatten = pre ++ bad :: post →
      (∀ y ∈ pre, ∃ b, g y = .ok b) → rows.mapM (fun row => row.mapM g) = .error e
  | [], pre, post, h, _ => by simp at h
  | r :: rs, pre, post, h, hpre => by
    rw [List.flatten_cons] at h
    rcases List.append_eq_append_iff.mp h with ⟨a', rfl, hrest⟩ | ⟨c', rfl, hbad'⟩
    · -- the first row reads whole, and the bad sample is in a later row
      obtain ⟨bs, hbs⟩ := mapM_ok_of_forall fun y hy => hpre y (List.mem_append_left _ hy)
      have hrs := mapM_rows_error bad hbad rs a' post hrest
        fun y hy => hpre y (List.mem_append_right _ hy)
      simp only [List.mapM_cons, hbs, hrs]
      rfl
    · cases c' with
      | nil =>
        -- the first row is what comes before the bad sample
        rw [List.append_nil]
        obtain ⟨bs, hbs⟩ := mapM_ok_of_forall hpre
        have hrs := mapM_rows_error bad hbad rs [] post (by simpa using hbad'.symm) (by simp)
        simp only [List.mapM_cons, hbs, hrs]
        rfl
      | cons x c'' =>
        -- the bad sample is in the first row
        obtain ⟨rfl, -⟩ := List.cons.inj hbad'
        simp only [List.mapM_cons, mapM_error_of_first pre bad c'' hpre hbad]
        rfl

end Except

section Build

/-- A dataset of a document: the first sample string, row by row, that is no number is the error;
when every sample reads, the table checks decide. -/
structure BuildLaw (name : String) (raw : RawDataset) : Prop where
  invalidSample : ∀ pre s post, raw.rows.flatten = pre ++ .text s :: post →
    (∀ x ∈ pre, ∃ v, x.value name = .ok v) → Decimal.readFloat? (Text.trim s) = none →
    raw.build name = .error (.invalidSample name s)
  checks : ∀ rows : List (List Float),
    List.Forall₂ (List.Forall₂ fun x v => x.value name = .ok v) raw.rows rows →
    raw.build name = Dataset.ofRows name rows raw.columns raw.labels

/-- **A dataset of a document reads its samples in row-major order before its table is
checked.** -/
theorem RawDataset.build_law (name : String) (raw : RawDataset) : BuildLaw name raw where
  invalidSample pre s post h hpre hs := by
    have hbad : Sample.value name (.text s) = .error (.invalidSample name s) := by
      simp [Sample.value, hs]
    simp only [RawDataset.build, mapM_rows_error _ hbad raw.rows pre post h hpre]
    rfl
  checks rows h := by
    have hrows : raw.rows.mapM (fun row => row.mapM (Sample.value name)) = .ok rows :=
      mapM_of_forall₂ (h.imp fun _ _ hrow => mapM_of_forall₂ hrow)
    simp only [RawDataset.build, hrows]
    rfl

end Build

section Parse

lemma build_step_ok_iff (c : Collection) (e : String × RawDataset) :
    (∃ c', (do let d ← e.2.build e.1; pure (c.insert e.1 d) : Except DatasetError Collection) =
      .ok c') ↔ ∃ d, e.2.build e.1 = .ok d := by
  rcases hb : e.2.build e.1 with err | d
  · simp only [reduceCtorEq, exists_false, iff_false, not_exists]
    intro c' h
    cases h
  · exact ⟨fun _ => ⟨d, rfl⟩, fun _ => ⟨_, rfl⟩⟩

/-- A document whose JSON reads as the datasets `raws`: they come in name order, the document
builds exactly when every dataset does, and otherwise fails with the error of the failing dataset
of least name. -/
structure ParseLaw (text origin : String) (raws : List (String × RawDataset)) : Prop where
  sorted : KeysSorted raws
  ok_iff : (∃ c, Collection.parse text origin = .ok c) ↔ ∀ e ∈ raws, ∃ d, e.2.build e.1 = .ok d
  first_error : ∀ n raw err, (n, raw) ∈ raws → raw.build n = .error err →
    (∀ e ∈ raws, e.1 < n → ∃ d, e.2.build e.1 = .ok d) → Collection.parse text origin = .error err

/-- **A document fails with the error of its first failing dataset in name order.** -/
theorem Collection.parse_law {text : String} (origin : String) {raws : List (String × RawDataset)}
    (h : (Reader.runOn readDocument text).1 = .ok raws) : ParseLaw text origin raws := by
  have hsorted := readDocument_sorted h
  refine ⟨hsorted, ?_, fun n raw err hmem herr hbefore => ?_⟩
  · simp only [Collection.parse, h]
    exact foldlM_ok_iff (fun c e => build_step_ok_iff c e) raws {}
  · -- the datasets before it in the list are those of smaller name, and they all build
    obtain ⟨pre, post, rfl⟩ := List.append_of_mem hmem
    have hlt : ∀ e ∈ pre, e.1 < n := by
      intro e he
      have hs : ((pre.map (·.1)) ++ (n :: post.map (·.1))).Pairwise (· < ·) := by
        have h' := hsorted
        unfold KeysSorted at h'
        rwa [List.map_append, List.map_cons] at h'
      exact (List.pairwise_append.mp hs).2.2 e.1 (List.mem_map_of_mem he) n List.mem_cons_self
    simp only [Collection.parse, h]
    refine foldlM_error_of_first (P := fun e : String × RawDataset => ∃ d, e.2.build e.1 = .ok d)
      (fun c e he => (build_step_ok_iff c e).mpr he) (n, raw) (fun c => ?_) pre post {}
      fun e he => hbefore e (by simp [he]) (hlt e he)
    simp only [herr]
    rfl

end Parse


/-- **Datasets are accepted exactly when well-formed, and rejected with the first failed check.**
A table built from rows passes exactly when the rows are empty or the first has values, every row
is as wide as the table and the labels are no more than its width, and then holds the rows as
given; otherwise it gets, in this order, the error for rows without values, for the least row of
another width, or for too many labels. A dataset of a document reads its samples row by row first,
and the first sample string that is no number is its error. A document whose JSON reads builds
exactly when every dataset does, and otherwise fails with the error of the failing dataset of
least name. -/
theorem dataset_validation_order :
    (∀ name rows columns labels, OfRowsLaw name rows columns labels) ∧
      (∀ name raw, BuildLaw name raw) ∧
      (∀ text origin raws, (Reader.runOn readDocument text).1 = .ok raws →
        ParseLaw text origin raws) :=
  ⟨Dataset.ofRows_law, RawDataset.build_law, fun _ origin _ h => Collection.parse_law origin h⟩

end SimRegress
