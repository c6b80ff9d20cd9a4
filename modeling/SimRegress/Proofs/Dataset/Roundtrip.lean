import Mathlib
import SimRegress.Proofs.Json.Values
import SimRegress.Proofs.Dataset.Shape
import SimRegress.Proofs.Float.Order

/-!
Writing a collection as a document and reading it back.

`Collection.toJson` writes every part of a collection as indented text, and reading that text
goes through the same parts: the labels, the width and the rows of each dataset
(`reads_readRawDataset`), the datasets in name order (`reads_readDatasetMap`), and the document
around them (`reads_readDocument`). So reading the document of a well-formed collection gives back
the same names, widths, labels and rows (`Collection.parse_toJson`). Each sample comes back as
what its text reads as (`rereadSample`). NaN is written as the word `NaN` and reads back as a
NaN (`rereadSample_of_isNaN`), and an infinity reads back as itself (`rereadSample_of_isInf`). A
finite sample is written as its shortest decimal, and that decimal is read with at most two
roundings, so it need not come back as the same float: `1e-23` comes back as the next float up
(`parse_toJson_one_sample`).
-/

namespace SimRegress

open Json

/-! ### Reading the parts of a document -/

lemma blanks_nil : Blanks [] := fun _ h => by simp at h

lemma blanks_space : Blanks [' '] := fun c hc => by simp at hc; subst hc; rfl

lemma reads_readText {F : List Char → Prop} {bl : List Char} (hbl : Blanks bl) (s : String) :
    Reads F readText (bl ++ (quote s).toList) s := by
  rw [toList_quote]
  exact Reads.fixPosition ((reads_skipBlank hbl (by decide)).bind
    ((reads_eat (F := fun _ => True) '"').bind (reads_readString s) (fun _ _ => trivial))
    (fun _ _ => rfl))

lemma reads_readCount {bl : List Char} (hbl : Blanks bl) {n : Nat} (hn : n < 2 ^ 64) :
    Reads Delimited readCount (bl ++ Nat.toDigits 10 n) n := by
  obtain ⟨c, ds, hcd⟩ := List.exists_cons_of_ne_nil (Nat.toDigits_ne_nil (n := n) (b := 10))
  have hc : c.isDigit = true := Nat.isDigit_of_mem_toDigits (b := 10) (n := n) (by norm_num)
    (by norm_num) (by rw [hcd]; exact List.mem_cons_self)
  have hs := scanNumber_toDigits hn
  rw [hcd] at hs ⊢
  unfold SimRegress.readCount
  refine Reads.fixPosition ((reads_skipBlank hbl (isBlank_of_isDigit hc)).bind ?_ (fun _ _ => rfl))
  -- a digit is neither the end of the text nor a minus sign
  split
  case h_1 => contradiction
  case h_2 heq =>
    simp only [Option.some.injEq] at heq
    subst heq
    simp at hc
  case h_3 heq =>
    simp only [Option.some.injEq] at heq
    subst heq
    rw [if_pos hc, ← List.append_nil (c :: ds)]
    exact (reads_readNumber hs).bind (f := countOf) (Reads.pure' n) (fun _ h => h)

lemma reads_readOptionalCount {bl : List Char} (hbl : Blanks bl) {n : Nat} (hn : n < 2 ^ 64) :
    Reads Delimited readOptionalCount (bl ++ Nat.toDigits 10 n) (some n) := by
  obtain ⟨c, ds, hcd⟩ := List.exists_cons_of_ne_nil (Nat.toDigits_ne_nil (n := n) (b := 10))
  have hc : c.isDigit = true := Nat.isDigit_of_mem_toDigits (b := 10) (n := n) (by norm_num)
    (by norm_num) (by rw [hcd]; exact List.mem_cons_self)
  have hr := reads_readCount blanks_nil hn
  rw [hcd] at hr ⊢
  unfold SimRegress.readOptionalCount
  refine (reads_skipBlank hbl (isBlank_of_isDigit hc)).bind ?_ (fun _ _ => rfl)
  split
  case h_1 heq =>
    simp only [Option.some.injEq] at heq
    subst heq
    simp at hc
  case h_2 => exact hr.map some

/-- Reading members with `step` from the state `s` ends in the state `s'`: each member's step
reads its colon and value, from the state that the members before it left. -/
def StepsRead (step : σ → String → Reader σ) : σ → List (String × List Char) → σ → Prop
  | s, [], s' => s = s'
  | s, (k, t) :: ms, s' =>
    ∃ s₁, Reads Delimited (step s k) (':' :: t) s₁ ∧ StepsRead step s₁ ms s'

lemma stepsRead_append {step : σ → String → Reader σ} {ms₂ : List (String × List Char)}
    {s₁ s₂ : σ} :
    ∀ {ms₁ : List (String × List Char)} {s : σ}, StepsRead step s ms₁ s₁ →
      StepsRead step s₁ ms₂ s₂ → StepsRead step s (ms₁ ++ ms₂) s₂
  | [], _, h₁, h₂ => by
    obtain rfl := h₁
    exact h₂
  | (_, _) :: _, _, ⟨s', hstep, hrest⟩, h₂ => ⟨s', hstep, stepsRead_append hrest h₂⟩

lemma reads_fieldsLoop {step : σ → String → Reader σ} {nl bl : List Char} (hnl : Blanks nl)
    (hbl : Blanks bl) (ms : List (String × List Char)) :
    ∀ (fuel : Nat) (first : Bool) (s s' : σ), ms.length < fuel → StepsRead step s ms s' →
      Reads (·.head? = some '\x7d') (SimRegress.fieldsLoop step fuel first s)
        (membersText nl first ms ++ bl) s' := by
  induction ms with
  | nil =>
    intro fuel first s s' hf hs
    obtain ⟨fuel, rfl⟩ : ∃ f, fuel = f + 1 := ⟨fuel - 1, by simp at hf; omega⟩
    obtain rfl : s = s' := hs
    rw [SimRegress.fieldsLoop, membersText, List.nil_append, ← List.append_nil bl]
    refine (reads_nextKey_end hbl first).bind ?_ (fun _ h => h)
    exact Reads.pure' _
  | cons m ms ih =>
    intro fuel first s s' hf hs
    obtain ⟨fuel, rfl⟩ : ∃ f, fuel = f + 1 := ⟨fuel - 1, by simp at hf; omega⟩
    rcases m with ⟨k, t⟩
    obtain ⟨s₁, hstep, hrest⟩ := hs
    have hloop := ih fuel false s₁ s' (by simp at hf; omega) hrest
    have hbody : Reads (·.head? = some '\x7d')
        (do let k ← Json.readKey; let s ← step s k; SimRegress.fieldsLoop step fuel false s)
        ((quote k).toList ++ ((':' :: t) ++ (membersText nl false ms ++ bl))) s' :=
      (reads_readKey (F := fun _ => True) k).bind
        (hstep.bind hloop (fun rest hr => delimited_membersText hbl nl ms hr)) (fun _ _ => trivial)
    rw [SimRegress.fieldsLoop]
    cases first
    · have e : membersText nl false ((k, t) :: ms) ++ bl =
          (',' :: nl) ++ ((quote k).toList ++ ((':' :: t) ++ (membersText nl false ms ++ bl))) := by
        simp [membersText]
      rw [e]
      exact (reads_nextKey_comma hnl).bind hbody (fun _ _ => by simp [toList_quote])
    · have e : membersText nl true ((k, t) :: ms) ++ bl =
          nl ++ ((quote k).toList ++ ((':' :: t) ++ (membersText nl false ms ++ bl))) := by
        simp [membersText]
      rw [e]
      exact (reads_nextKey_first hnl).bind hbody (fun _ _ => by simp [toList_quote])

lemma reads_fields {step : σ → String → Reader σ} {nl bl : List Char} (hnl : Blanks nl)
    (hbl : Blanks bl) {ms : List (String × List Char)} {init s' : σ}
    (hs : StepsRead step init ms s') :
    Reads (·.head? = some '\x7d') (SimRegress.fields step init) (membersText nl true ms ++ bl) s' := by
  intro rest pos bound hr hlen
  have hms := length_le_membersText nl true ms
  obtain ⟨pos', hrun⟩ := reads_fieldsLoop hnl hbl ms (bound + 1) true init s'
    (by simp only [List.length_append] at hlen; omega) hs rest pos bound hr hlen
  exact ⟨pos', by simpa [SimRegress.fields, runAt_bind, runAt_get] using hrun⟩

lemma reads_colon_then {r : Reader α} {t : List Char} {a : α} (h : Reads Delimited r (' ' :: t) a)
    (g : α → β) :
    Reads Delimited (do Json.colon; let x ← r; pure (g x)) (':' :: ' ' :: t) (g a) := by
  rw [show ':' :: ' ' :: t = ([] ++ [':']) ++ ((' ' :: t) ++ []) by simp]
  exact (reads_colon (F := fun _ => True) (fun _ h => by simp at h)).bind
    (h.bind (Reads.pure' _) (fun _ h => h)) (fun _ _ => trivial)

lemma reads_readSeqOf {F : List Char → Prop} {item : Nat → Reader α} {remaining : Nat}
    (hr : 2 ≤ remaining) (expecting : String) {bl : List Char} (hbl : Blanks bl) (level : Nat)
    {xs : List Value} {as : List α}
    (h : List.Forall₂ (fun x a => StartsItem (x.pretty (level + 1)).toList ∧
      Reads Delimited (item (remaining - 1)) (x.pretty (level + 1)).toList a) xs as) :
    Reads F (readSeqOf expecting remaining item) (bl ++ ((Value.arr xs).pretty level).toList) as := by
  have hitems := reads_items (blanks_newline (level + 1))
    (blanks_newline_if (xs = []) level) (List.forall₂_map_left_iff.2 h)
  rw [toList_pretty_arr, ← List.append_assoc, ← List.nil_append [']']]
  unfold SimRegress.readSeqOf
  exact Reads.fixPosition ((reads_skipBlank hbl (by decide)).bind
    (Reads.nested hr '[' hitems (reads_closeSeq (fun _ h => by simp at h)) (fun _ _ => rfl))
    (fun _ _ => rfl))

lemma reads_nestedMap {body : Reader α} {r : Nat} (hr : 2 ≤ r) {G : List Char → Prop}
    {p : List Char} {a : α} (h : Reads (·.head? = some '\x7d') body p a) :
    Reads G (Json.nested r body closeMap) ('\x7b' :: (p ++ ['\x7d'])) a := by
  rw [← List.nil_append ['\x7d']]
  exact Reads.nested hr '\x7b' h (reads_closeMap (fun _ h => by simp at h)) (fun _ _ => rfl)

/-! ### Samples -/

/-- What reading a document gives back for a sample written as `x`: NaN and the infinities are
written as their names and read back from them, and a finite value is written as its shortest
decimal and read back as the number that text stands for. -/
def rereadSample (x : Float) : Option Float :=
  match sampleJson x with
  | .num n => (numberOfText? n.render.toList).map Number.toFloat
  | .str s => Decimal.readFloat? (Text.trim s)
  | _ => none

/-- **NaN reads back as NaN.** -/
lemma rereadSample_of_isNaN {x : Float} (h : x.isNaN = true) : rereadSample x = some Decimal.nan := by
  simp only [rereadSample, sampleJson, if_pos h]
  decide

lemma isNaN_nan : Decimal.nan.isNaN = true := by decide

/-- **An infinity reads back as itself.** -/
lemma rereadSample_of_isInf {x : Float} (h : x.isInf = true) : rereadSample x = some x := by
  obtain ⟨s, rfl⟩ := Binary64.eq_infinity_of_isInf h
  cases s <;> decide

lemma pretty_num (level : Nat) (n : Number) : (Value.num n).pretty level = n.render := by
  rw [Value.pretty] <;> simp [Value.compact]

lemma pretty_str (level : Nat) (s : String) : (Value.str s).pretty level = quote s := by
  rw [Value.pretty] <;> simp [Value.compact]

lemma startsItem_of_numberOfText {cs : List Char} {n : Number} (h : numberOfText? cs = some n) :
    StartsItem cs := by
  rcases cs with _ | ⟨c, r⟩
  · simp [numberOfText?, scanWhole, scanNumber] at h
  by_cases hm : c = '-'
  · subst hm
    exact ⟨'-', r, rfl, by decide, by decide⟩
  · have h' : scanWhole true (c :: r) = some n := by simpa [numberOfText?, hm] using h
    have hc := isDigit_of_scanNumber (scanNumber_of_scanWhole h')
    exact ⟨c, r, rfl, isBlank_of_isDigit hc, by rintro rfl; simp at hc⟩

lemma reads_readSample_of_reread {x y : Float} (h : rereadSample x = some y) (d level : Nat) :
    ∃ s, StartsItem ((sampleJson x).pretty level).toList ∧
      Reads Delimited (readSample (d + 1)) ((sampleJson x).pretty level).toList s ∧
      ∀ name, Sample.value name s = .ok y := by
  unfold rereadSample at h
  split at h
  · rename_i n hn
    obtain ⟨m, hm, rfl⟩ := Option.map_eq_some_iff.1 h
    refine ⟨.number m.toFloat, ?_, ?_, fun _ => rfl⟩
    · rw [hn, pretty_num]
      exact startsItem_of_numberOfText hm
    · rw [hn, pretty_num, ← List.nil_append n.render.toList, ← List.append_nil ([] ++ _)]
      unfold SimRegress.readSample
      exact (reads_readAny_number d (fun _ h => by simp at h) hm).bind (Reads.pure' _)
        (fun _ h => h)
  · rename_i str hs
    refine ⟨.text str, ?_, ?_, fun _ => by simp [Sample.value, h]⟩
    · rw [hs, pretty_str, toList_quote]
      exact ⟨'"', _, rfl, by decide, by decide⟩
    · rw [hs, pretty_str, ← List.nil_append (quote str).toList, ← List.append_nil ([] ++ _)]
      unfold SimRegress.readSample
      exact (reads_readAny_string d (fun _ h => by simp at h) str).bind (Reads.pure' _)
        (fun _ h => h)
  · simp at h

/-- The samples read for a row check to the values `f` gives. -/
def SamplesRead (f : Float → Float) (x : Float) (s : Sample) : Prop :=
  ∀ name, Sample.value name s = .ok (f x)

lemma reads_readRow {f : Float → Float} {row : List Float}
    (hrow : ∀ x ∈ row, rereadSample x = some (f x)) {remaining : Nat} (hr : 2 ≤ remaining)
    {bl : List Char} (hbl : Blanks bl) (level : Nat) :
    ∃ ss, List.Forall₂ (SamplesRead f) row ss ∧
      Reads Delimited (SimRegress.readSeqOf "a sequence" remaining readSample)
        (bl ++ ((Value.arr (row.map sampleJson)).pretty level).toList) ss := by
  obtain ⟨d, hd⟩ : ∃ d, remaining - 1 = d + 1 := ⟨remaining - 2, by omega⟩
  obtain ⟨ss, hss⟩ := exists_forall₂ (R := fun x s =>
      StartsItem ((sampleJson x).pretty (level + 1)).toList ∧
      Reads Delimited (readSample (d + 1)) ((sampleJson x).pretty (level + 1)).toList s ∧
      SamplesRead f x s) row
    (fun x hx => reads_readSample_of_reread (hrow x hx) d (level + 1))
  refine ⟨ss, hss.imp (fun _ _ h => h.2.2), ?_⟩
  refine reads_readSeqOf hr _ hbl level (List.forall₂_map_left_iff.2 (hss.imp ?_))
  intro x s h
  rw [hd]
  exact ⟨h.1, h.2.1⟩

/-- The text a list of rows is written as. -/
def rowsJson (rows : List (List Float)) : Value :=
  .arr (rows.map fun row => .arr (row.map sampleJson))

lemma reads_readRows {f : Float → Float} {rows : List (List Float)}
    (hrows : ∀ row ∈ rows, ∀ x ∈ row, rereadSample x = some (f x)) {remaining : Nat}
    (hr : 3 ≤ remaining) {bl : List Char} (hbl : Blanks bl) (level : Nat) :
    ∃ sss, List.Forall₂ (List.Forall₂ (SamplesRead f)) rows sss ∧
      Reads Delimited (SimRegress.readRows remaining)
        (bl ++ ((rowsJson rows).pretty level).toList) sss := by
  obtain ⟨sss, hsss⟩ := exists_forall₂ (R := fun row ss =>
      List.Forall₂ (SamplesRead f) row ss ∧
      Reads Delimited (SimRegress.readSeqOf "a sequence" (remaining - 1) readSample)
        ([] ++ ((Value.arr (row.map sampleJson)).pretty (level + 1)).toList) ss) rows
    (fun row hrow => reads_readRow (hrows row hrow) (by omega) (fun _ h => by simp at h)
      (level + 1))
  refine ⟨sss, hsss.imp (fun _ _ h => h.1), ?_⟩
  refine reads_readSeqOf (by omega) _ hbl level (List.forall₂_map_left_iff.2 (hsss.imp ?_))
  intro row ss h
  refine ⟨?_, by simpa using h.2⟩
  rw [toList_pretty_arr]
  exact ⟨'[', _, rfl, by decide, by decide⟩

lemma mapM_value_of_samplesRead {f : Float → Float} (name : String) :
    ∀ {row : List Float} {ss : List Sample}, List.Forall₂ (SamplesRead f) row ss →
      ss.mapM (Sample.value name) = .ok (row.map f)
  | _, _, .nil => rfl
  | _, _, .cons (a := x) (b := s) hs hrest => by
    simp only [List.mapM_cons, hs name, mapM_value_of_samplesRead name hrest, List.map_cons]
    rfl

lemma mapM_rows_of_samplesRead {f : Float → Float} (name : String) :
    ∀ {rows : List (List Float)} {sss : List (List Sample)},
      List.Forall₂ (List.Forall₂ (SamplesRead f)) rows sss →
      sss.mapM (fun ss => ss.mapM (Sample.value name)) = .ok (rows.map (·.map f))
  | _, _, .nil => rfl
  | _, _, .cons hs hrest => by
    simp only [List.mapM_cons, mapM_value_of_samplesRead name hs,
      mapM_rows_of_samplesRead name hrest, List.map_cons]
    rfl

/-! ### Tables rebuilt from their rows -/

lemma flatten_map_range (R C : Nat) (g : Nat → α) :
    ((List.range R).map fun r => (List.range C).map fun c => g (r * C + c)).flatten =
      (List.range (R * C)).map g := by
  induction R with
  | zero => simp
  | succ R ih =>
    rw [List.range_succ, List.map_append, List.flatten_append, ih, Nat.succ_mul, List.range_add,
      List.map_append, List.map_map]
    simp [Function.comp_def]

lemma Dataset.flatten_rowList {d : Dataset} (hd : d.WellFormed) :
    d.rowList.flatten = d.data.toList := by
  have h := flatten_map_range d.rows d.columns fun i => d.data.getD i 0.0
  simp only [Dataset.rowList, Dataset.value]
  rw [h, ← hd.size_eq]
  apply List.ext_getElem
  · simp
  · intro i _ h2
    have hi : i < d.data.size := by simpa using h2
    simp [Array.getD, hi]

lemma firstRagged_eq_none {w : Nat} {rows : List (List Float)} (h : ∀ r ∈ rows, r.length = w) :
    firstRagged w rows = none := by
  apply List.findSome?_eq_none_iff.2
  rintro ⟨i, r⟩ hir
  simp [h r (List.of_mem_zip hir).2]

lemma length_of_mem_rowList {d : Dataset} {row : List Float} (h : row ∈ d.rowList) :
    row.length = d.columns := by
  obtain ⟨r, -, rfl⟩ := List.mem_map.1 h
  simp

/-- **A well-formed table is rebuilt from its rows**, with each sample through `f`: the width is
that of the rows, or the one given when there are none. -/
lemma Dataset.ofRows_rowList {d : Dataset} (hd : d.WellFormed) (f : Float → Float) (name : String) :
    Dataset.ofRows name (d.rowList.map (·.map f)) (if d.rows = 0 then some d.columns else none)
      d.labels = .ok ⟨d.columns, d.data.map f, d.labels⟩ := by
  have hlen : ∀ r ∈ d.rowList.map (·.map f), r.length = d.columns := by
    intro r hr
    obtain ⟨row, hrow, rfl⟩ := List.mem_map.1 hr
    simp [length_of_mem_rowList hrow]
  -- the width is that of the first row, or the one given when there are no rows
  have hwidth : tableWidth (d.rowList.map (·.map f)) (if d.rows = 0 then some d.columns else none)
      d.labels = d.columns := by
    by_cases h0 : d.rows = 0
    · simp [tableWidth, Dataset.rowList, h0]
    · obtain ⟨R, hR⟩ : ∃ R, d.rows = R + 1 := ⟨d.rows - 1, by omega⟩
      simp [tableWidth, Dataset.rowList, hR, List.range_succ_eq_map]
  have hnonempty : ¬ (d.columns == 0 && !(d.rowList.map (·.map f)).isEmpty) = true := by
    by_cases h0 : d.rows = 0
    · simp [Dataset.rowList, h0]
    · have hc : d.columns ≠ 0 := fun hc => h0 (by simp [Dataset.rows, hc])
      simp [hc]
  simp only [Dataset.ofRows, hwidth, if_neg hnonempty, firstRagged_eq_none hlen,
    gt_iff_lt, not_lt.2 hd.labels_le, if_false]
  rw [← List.map_flatten, Dataset.flatten_rowList hd, ← Array.toList_map, Array.toArray_toList]

/-! ### Datasets -/

lemma reads_datasetField_labels {r : Nat} (hr : 2 ≤ r) {s : DatasetFields} (hs : s.labels = none)
    (labels : List String) (level : Nat) :
    Reads Delimited (datasetField r s "labels")
      (':' :: ' ' :: ((Value.arr (labels.map .str)).pretty level).toList)
      { s with labels := some labels } := by
  have hseq : Reads Delimited (SimRegress.readSeqOf "a sequence" r fun _ => readText)
      ([' '] ++ ((Value.arr (labels.map .str)).pretty level).toList) labels := by
    refine reads_readSeqOf hr _ (fun c hc => by simp at hc; subst hc; rfl) level
      (List.forall₂_map_left_iff.2 ?_)
    refine List.forall₂_same.2 fun l _ => ⟨?_, ?_⟩
    · rw [pretty_str, toList_quote]
      exact ⟨'"', _, rfl, by decide, by decide⟩
    · rw [pretty_str, ← List.nil_append (quote l).toList]
      exact reads_readText (fun _ h => by simp at h) l
  simp only [datasetField, hs, Option.isSome_none, Bool.false_eq_true, if_false]
  exact reads_colon_then hseq _

lemma reads_datasetField_columns {r : Nat} {s : DatasetFields} (hs : s.columns = none) {n : Nat}
    (hn : n < 2 ^ 64) (level : Nat) :
    Reads Delimited (datasetField r s "columns")
      (':' :: ' ' :: ((Value.num (.nat n)).pretty level).toList)
      { s with columns := some (some n) } := by
  have hcount := reads_readOptionalCount blanks_space hn
  rw [pretty_num, Number.render, Decimal.digitsText, String.toList_ofList]
  simp only [datasetField, hs, Option.isSome_none, Bool.false_eq_true, if_false]
  exact reads_colon_then hcount _

lemma reads_datasetField_rows {f : Float → Float} {rows : List (List Float)}
    (hrows : ∀ row ∈ rows, ∀ x ∈ row, rereadSample x = some (f x)) {r : Nat} (hr : 3 ≤ r)
    {s : DatasetFields} (hs : s.rows = none) (level : Nat) :
    ∃ sss, List.Forall₂ (List.Forall₂ (SamplesRead f)) rows sss ∧
      Reads Delimited (datasetField r s "rows")
        (':' :: ' ' :: ((rowsJson rows).pretty level).toList) { s with rows := some sss } := by
  obtain ⟨sss, hsss, hread⟩ :=
    reads_readRows hrows hr blanks_space level
  refine ⟨sss, hsss, ?_⟩
  simp only [datasetField, hs, Option.isSome_none, Bool.false_eq_true, if_false]
  exact reads_colon_then hread _

lemma Dataset.toJson_eq (d : Dataset) :
    d.toJson = Value.obj
      ((if d.labels.isEmpty then [] else [("labels", Value.arr (d.labels.map Value.str))]) ++
        (if d.rows == 0 then [("columns", Value.num (Number.nat d.columns))] else []) ++
        [("rows", rowsJson d.rowList)]) := rfl

section Fields

variable {r : Nat} {s : DatasetFields} (level : Nat)

lemma stepsRead_labels (hr : 2 ≤ r) (hs : s.labels = none) (labels : List String) :
    ∃ s', StepsRead (datasetField r) s
      ((if labels.isEmpty then [] else [("labels", Value.arr (labels.map .str))]).map
        fun m => (m.1, ' ' :: (m.2.pretty level).toList)) s' ∧
      s'.labels.getD [] = labels ∧ s'.columns = s.columns ∧ s'.rows = s.rows := by
  split
  · rename_i h
    exact ⟨s, rfl, by simp_all, rfl, rfl⟩
  · exact ⟨_, ⟨_, reads_datasetField_labels hr hs labels level, rfl⟩, rfl, rfl, rfl⟩

lemma stepsRead_columns (hs : s.columns = none) (rows : Nat) {n : Nat}
    (hn : rows = 0 → n < 2 ^ 64) :
    ∃ s', StepsRead (datasetField r) s
      ((if rows == 0 then [("columns", Value.num (.nat n))] else []).map
        fun m => (m.1, ' ' :: (m.2.pretty level).toList)) s' ∧
      s'.columns.getD none = (if rows = 0 then some n else none) ∧ s'.labels = s.labels ∧
      s'.rows = s.rows := by
  split
  · rename_i h
    exact ⟨_, ⟨_, reads_datasetField_columns hs (hn (by simpa using h)) level, rfl⟩, by simp_all,
      rfl, rfl⟩
  · rename_i h
    exact ⟨s, rfl, by simp_all, rfl, rfl⟩

end Fields

lemma reads_datasetFromObject {r : Nat} {nl bl : List Char} (hnl : Blanks nl) (hbl : Blanks bl)
    {ms : List (String × List Char)} {s : DatasetFields} (h : StepsRead (datasetField r) {} ms s) :
    Reads (·.head? = some '\x7d') (datasetFromObject r) (membersText nl true ms ++ bl)
      ⟨s.labels.getD [], s.columns.getD none, s.rows.getD []⟩ := by
  rw [← List.append_nil (membersText nl true ms ++ bl)]
  exact (reads_fields hnl hbl h).bind (Reads.pure' _) (fun _ h => h)

/-- **A dataset's text reads back** as a dataset that checks to the same table with each sample
through `f`, when every sample `x` reads back as `f x`. -/
lemma reads_readRawDataset {f : Float → Float} {d : Dataset} (hd : d.WellFormed)
    (hcol : d.rows = 0 → d.columns < 2 ^ 64) (hf : ∀ x ∈ d.data, rereadSample x = some (f x))
    {r : Nat} (hr : 4 ≤ r) {F : List Char → Prop} {bl : List Char} (hbl : Blanks bl)
    (level : Nat) :
    ∃ raw, Reads F (readRawDataset r) (bl ++ (d.toJson.pretty level).toList) raw ∧
      ∀ name, raw.build name = .ok { d with data := d.data.map f } := by
  have hrows : ∀ row ∈ d.rowList, ∀ x ∈ row, rereadSample x = some (f x) := by
    intro row hrow x hx
    apply hf
    rw [← Array.mem_toList_iff, ← Dataset.flatten_rowList hd]
    exact List.mem_flatten.2 ⟨row, hrow, hx⟩
  -- the labels, then the width, then the rows
  obtain ⟨s₁, h₁, hl₁, hc₁, hr₁⟩ :=
    stepsRead_labels (level + 1) (r := r - 1) (by omega) (s := {}) rfl d.labels
  obtain ⟨s₂, h₂, hc₂, hl₂, hr₂⟩ := stepsRead_columns (level + 1) (r := r - 1) hc₁ d.rows hcol
  obtain ⟨sss, hsss, h₃⟩ :=
    reads_datasetField_rows hrows (r := r - 1) (by omega) (hr₂.trans hr₁) (level + 1)
  have h₃' : StepsRead (datasetField (r - 1)) s₂
      [("rows", ' ' :: ((rowsJson d.rowList).pretty (level + 1)).toList)]
      { s₂ with rows := some sss } := ⟨_, h₃, rfl⟩
  have hsteps := stepsRead_append (stepsRead_append h₁ h₂) h₃'
  refine ⟨⟨s₂.labels.getD [], s₂.columns.getD none, sss⟩, ?_, fun name => ?_⟩
  · rw [Dataset.toJson_eq, toList_pretty_obj, ← List.append_assoc, List.map_append,
      List.map_append]
    unfold SimRegress.readRawDataset
    exact Reads.fixPosition ((reads_skipBlank hbl (by decide)).bind
      (reads_nestedMap (by omega) (reads_datasetFromObject (blanks_newline (level + 1))
        (blanks_newline_if _ level) hsteps)) (fun _ _ => rfl))
  · simp only [RawDataset.build]
    rw [mapM_rows_of_samplesRead name hsss, hc₂, hl₂, hl₁]
    exact Dataset.ofRows_rowList hd f name

/-! ### Collections -/

section Insert

variable {α : Type} {k : String} {v : α}

lemma insertByName_of_lt : ∀ {l : List (String × α)}, (∀ e ∈ l, e.1 < k) →
    insertByName k v l = l ++ [(k, v)]
  | [], _ => rfl
  | (k', v') :: l, h => by
    have hk : k' < k := h (k', v') (by simp)
    rw [insertByName, if_neg (lt_asymm hk), if_neg (by simpa using (ne_of_gt hk)),
      insertByName_of_lt (fun e he => h e (by simp [he])), List.cons_append]

lemma lt_of_keysSorted_append {acc l : List (String × α)}
    (h : KeysSorted (acc ++ (k, v) :: l)) : ∀ e ∈ acc, e.1 < k := by
  intro e he
  simp only [KeysSorted, List.map_append, List.map_cons, List.pairwise_append] at h
  exact h.2.2 e.1 (List.mem_map_of_mem he) k (by simp)

lemma foldl_insertByName : ∀ (l acc : List (String × α)), KeysSorted (acc ++ l) →
    l.foldl (fun acc kv => insertByName kv.1 kv.2 acc) acc = acc ++ l
  | [], acc, _ => by simp
  | (k, v) :: l, acc, h => by
    rw [List.foldl_cons, insertByName_of_lt (lt_of_keysSorted_append h),
      foldl_insertByName l _ (by simpa using h)]
    simp

end Insert

lemma map_fst_of_forall₂ {R : β → γ → Prop} :
    ∀ {l₁ : List (String × β)} {l₂ : List (String × γ)},
      List.Forall₂ (fun e v => e.1 = v.1 ∧ R e.2 v.2) l₁ l₂ → l₁.map (·.1) = l₂.map (·.1)
  | _, _, .nil => rfl
  | _, _, .cons h hrest => by simp [h.1, map_fst_of_forall₂ hrest]

lemma reads_membersByName {value : Reader α} {nl bl : List Char} (hnl : Blanks nl)
    (hbl : Blanks bl) {ms : List (String × List Char)} {vs : List (String × α)}
    (h : List.Forall₂ (fun m v => m.1 = v.1 ∧ Reads Delimited value m.2 v.2) ms vs) :
    Reads (·.head? = some '\x7d') (membersByName value) (membersText nl true ms ++ bl)
      (vs.foldl (fun acc kv => insertByName kv.1 kv.2 acc) []) := by
  rw [← List.append_nil (membersText nl true ms ++ bl)]
  exact (reads_members hnl hbl h).bind (Reads.pure' _) (fun _ h => h)

/-- The datasets of a collection with each sample through `f`. -/
def Collection.mapSamples (f : Float → Float) (c : Collection) : Collection :=
  ⟨c.entries.map fun e => (e.1, { e.2 with data := e.2.data.map f })⟩

/-- **The map of a collection's datasets reads back**, name by name, as datasets that check to
its tables with each sample through `f`. -/
lemma reads_readDatasetMap {f : Float → Float} {c : Collection} (hc : c.WellFormed)
    (hcol : ∀ e ∈ c.entries, e.2.rows = 0 → e.2.columns < 2 ^ 64)
    (hf : ∀ e ∈ c.entries, ∀ x ∈ e.2.data, rereadSample x = some (f x)) {r : Nat} (hr : 5 ≤ r)
    {F : List Char → Prop} {bl : List Char} (hbl : Blanks bl) (level : Nat) :
    ∃ raws : List (String × RawDataset),
      Reads F (readDatasetMap r)
        (bl ++ ((Value.obj (c.entries.map fun e => (e.1, e.2.toJson))).pretty level).toList) raws ∧
      List.Forall₂ (fun e v => e.1 = v.1 ∧
        ∀ name, v.2.build name = .ok { e.2 with data := e.2.data.map f }) c.entries raws := by
  obtain ⟨raws, hraws⟩ := exists_forall₂
    (R := fun e (v : String × RawDataset) => e.1 = v.1 ∧
      Reads Delimited (readRawDataset (r - 1)) (' ' :: (e.2.toJson.pretty (level + 1)).toList) v.2 ∧
      ∀ name, v.2.build name = .ok { e.2 with data := e.2.data.map f }) c.entries
    (fun e he => by
      obtain ⟨raw, hread, hbuild⟩ := reads_readRawDataset (hc.tables e he) (hcol e he) (hf e he)
        (r := r - 1) (by omega) blanks_space (level + 1)
      exact ⟨(e.1, raw), rfl, hread, hbuild⟩)
  -- the datasets come in name order, so inserting them one by one keeps them as they are
  have hsorted : KeysSorted raws := by
    have h := hc.sorted
    rwa [KeysSorted, map_fst_of_forall₂ (R := fun _ _ => True)
      (hraws.imp fun _ _ h => ⟨h.1, trivial⟩)] at h
  refine ⟨raws, ?_, hraws.imp fun _ _ h => ⟨h.1, h.2.2⟩⟩
  have hms : List.Forall₂ (fun m v => m.1 = v.1 ∧ Reads Delimited (readRawDataset (r - 1)) m.2 v.2)
      ((c.entries.map fun e => (e.1, e.2.toJson)).map
        fun m => (m.1, ' ' :: (m.2.pretty (level + 1)).toList)) raws :=
    List.forall₂_map_left_iff.2 (List.forall₂_map_left_iff.2
      (hraws.imp fun _ _ h => ⟨h.1, h.2.1⟩))
  have hbody := reads_membersByName (blanks_newline (level + 1))
    (blanks_newline_if ((c.entries.map fun e => (e.1, e.2.toJson)) = []) level) hms
  rw [foldl_insertByName raws [] hsorted, List.nil_append] at hbody
  rw [toList_pretty_obj, ← List.append_assoc]
  unfold SimRegress.readDatasetMap
  exact Reads.fixPosition ((reads_skipBlank hbl (by decide)).bind
    (reads_nestedMap (by omega) hbody) (fun _ _ => rfl))

lemma foldlM_insert_of_build
    {step : Collection → String × RawDataset → Except DatasetError Collection}
    (hstep : ∀ acc name raw d, raw.build name = .ok d →
      step acc (name, raw) = .ok (acc.insert name d))
    {g : Dataset → Dataset} :
    ∀ {entries : List (String × Dataset)} {raws : List (String × RawDataset)} (acc : Collection),
      KeysSorted (acc.entries ++ entries) →
      List.Forall₂ (fun e v => e.1 = v.1 ∧ ∀ name, v.2.build name = .ok (g e.2)) entries raws →
      raws.foldlM step acc = .ok ⟨acc.entries ++ entries.map fun e => (e.1, g e.2)⟩ := by
  intro entries raws acc hs h
  induction h generalizing acc with
  | nil => simp [pure, Except.pure]
  | cons hkv hrest ih =>
    rename_i e v _ _
    obtain ⟨k, d⟩ := e
    obtain ⟨k', raw⟩ := v
    obtain ⟨hk, hb⟩ := hkv
    obtain rfl : k = k' := hk
    have hins : acc.insert k (g d) = ⟨acc.entries ++ [(k, g d)]⟩ := by
      rw [Collection.insert, insertByName_of_lt (lt_of_keysSorted_append hs)]
    rw [List.foldlM_cons, hstep acc k raw (g d) (hb k)]
    simp only [bind, Except.bind]
    rw [hins, ih _ (by simpa [KeysSorted] using hs)]
    simp

lemma reads_documentFromObject {r : Nat} {nl bl : List Char} (hnl : Blanks nl)
    (hbl : Blanks bl) {ms : List (String × List Char)} {s : Option (List (String × RawDataset))}
    (h : StepsRead (documentField r) none ms s) :
    Reads (·.head? = some '\x7d') (documentFromObject r) (membersText nl true ms ++ bl)
      (s.getD []) := by
  rw [← List.append_nil (membersText nl true ms ++ bl)]
  exact (reads_fields hnl hbl h).bind (Reads.pure' _) (fun _ h => h)

lemma reads_finish : Reads (· = []) finish [] () := by
  rintro rest pos bound rfl -
  refine ⟨pos, ?_⟩
  have hend : ∀ c ∈ ([] : List Char).head?, isBlank c = false := fun _ h => by simp at h
  simp only [finish, runAt_bind, runAt_skipBlank_blanks blanks_nil hend, List.head?_nil]
  rfl

/-- **A collection's document reads back**, as the datasets it holds in name order. -/
lemma reads_readDocument {f : Float → Float} {c : Collection} (hc : c.WellFormed)
    (hcol : ∀ e ∈ c.entries, e.2.rows = 0 → e.2.columns < 2 ^ 64)
    (hf : ∀ e ∈ c.entries, ∀ x ∈ e.2.data, rereadSample x = some (f x)) :
    ∃ raws : List (String × RawDataset), Reads (· = []) readDocument c.toJson.toList raws ∧
      List.Forall₂ (fun e v => e.1 = v.1 ∧
        ∀ name, v.2.build name = .ok { e.2 with data := e.2.data.map f }) c.entries raws := by
  obtain ⟨raws, hmap, hraws⟩ := reads_readDatasetMap hc hcol hf (r := depthLimit - 1) (by decide)
    (F := Delimited) blanks_space 1
  refine ⟨raws, ?_, ?_⟩
  · have hfield : Reads Delimited (documentField (depthLimit - 1) none "datasets")
        (':' :: ' ' :: ((Value.obj (c.entries.map fun e => (e.1, e.2.toJson))).pretty 1).toList)
        (some raws) := by
      simp only [documentField, beq_self_eq_true, if_true, Option.isSome_none, Bool.false_eq_true,
        if_false]
      exact reads_colon_then hmap some
    have hsteps : StepsRead (documentField (depthLimit - 1)) none [("datasets", ' ' :: ((Value.obj
        (c.entries.map fun e => (e.1, e.2.toJson))).pretty 1).toList)] (some raws) :=
      ⟨_, hfield, rfl⟩
    have hvalue : Reads (· = []) readDocumentValue c.toJson.toList raws := by
      rw [Collection.toJson, toList_pretty_obj, ← List.append_assoc,
        ← List.nil_append ('\x7b' :: _)]
      unfold SimRegress.readDocumentValue
      exact Reads.fixPosition ((reads_skipBlank (fun _ h => by simp at h) (by decide)).bind
        (reads_nestedMap (by decide) (reads_documentFromObject (blanks_newline 1)
          (blanks_newline_if _ 0) hsteps)) (fun _ _ => rfl))
    -- nothing but the end of the text follows the document
    rw [show c.toJson.toList = c.toJson.toList ++ ([] ++ []) by simp]
    exact hvalue.bind (reads_finish.bind (Reads.pure' raws) (fun _ h => h)) (fun _ h => h)
  · exact hraws

/-- **Reading a collection's document gives the collection back**, with each sample as it reads
back: a well-formed collection, whose widths fit a count where they are written, and whose
samples `x` each read back as `f x`, is read as the same names, widths, labels and rows, with the
samples through `f`. -/
theorem Collection.parse_toJson {f : Float → Float} {c : Collection} (hc : c.WellFormed)
    (hcol : ∀ e ∈ c.entries, e.2.rows = 0 → e.2.columns < 2 ^ 64)
    (hf : ∀ e ∈ c.entries, ∀ x ∈ e.2.data, rereadSample x = some (f x)) (origin : String) :
    Collection.parse c.toJson origin = .ok (c.mapSamples f) := by
  obtain ⟨raws, hdoc, hraws⟩ := reads_readDocument hc hcol hf
  obtain ⟨pos, hrun⟩ := hdoc [] 0 c.toJson.length rfl (by simp [String.length_toList])
  have hrun' : (Reader.runOn readDocument c.toJson).1 = .ok raws := by
    rw [List.append_nil] at hrun
    simp only [Reader.runOn]
    exact congrArg Prod.fst hrun
  simp only [Collection.parse, hrun']
  refine (foldlM_insert_of_build (g := fun d => { d with data := d.data.map f }) ?_ {}
    (by simpa using hc.sorted) hraws).trans ?_
  · intro acc name raw d hb
    simp only [hb]
    rfl
  · simp [Collection.mapSamples]

/-- The sample `1e-23` is written as `1e-23`, which reads back as the next float up. -/
theorem parse_toJson_one_sample :
    Collection.parse (⟨[("d", ⟨1, #[1e-23], []⟩)]⟩ : Collection).toJson "d.json" =
      .ok ⟨[("d", ⟨1, #[1.0000000000000001e-23], []⟩)]⟩ :=
  (Collection.parse_toJson (c := ⟨[("d", ⟨1, #[1e-23], []⟩)]⟩)
    (f := fun _ => 1.0000000000000001e-23)
    ⟨by simp [KeysSorted], by simp; exact ⟨by simp, by decide⟩⟩ (by simp) (by simp; decide)
    "d.json").trans (by simp [Collection.mapSamples])

end SimRegress
