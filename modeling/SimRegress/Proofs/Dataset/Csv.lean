import Mathlib
import SimRegress.Proofs.Dataset.Validation
import SimRegress.Dataset.Csv

/-!
Reading a table from comma-separated text.

The lines are numbered before the blank ones are dropped, so the number an error carries is the
place of its line in the text, blank lines counted (`dataLines`). The first line that is not
blank is the header (`HeaderLine`) and gives the labels; every later line that is not blank is a
row, read cell by cell, and the first cell of the text that is no number is the error. When every
cell reads, the rows go to `Dataset.ofRows` with the header's width, and its checks decide
(`CsvLaw`). A line split at commas has at least one cell, so no row is empty: reading fails only
on a line, a ragged row or too many labels, never with rows without values, a sample text, a
document or a file.
-/

namespace SimRegress

/-! ### Cells -/

lemma splitOnAux_ne_nil (s sep : String) (b i j : String.Pos.Raw) (r : List String) :
    String.splitOnAux s sep b i j r ≠ [] := by
  fun_induction String.splitOnAux s sep b i j r with
  | case1 => simp
  | case2 _ _ _ _ _ _ _ _ _ ih => exact ih
  | case3 _ _ _ _ _ _ _ _ _ ih => exact ih
  | case4 _ _ _ _ _ _ ih => exact ih

lemma splitOn_comma_ne_nil (l : String) : l.splitOn "," ≠ [] := by
  unfold String.splitOn
  rw [if_neg (by decide)]
  exact splitOnAux_ne_nil _ _ _ _ _ _

lemma csvRow_eq_ok_iff {line : Nat} {l : String} {row : List Float} : csvRow line l = .ok row ↔
    List.Forall₂ (fun c x => Decimal.readFloat? (Text.trim c) = some x) (l.splitOn ",") row := by
  unfold csvRow
  constructor
  · intro h
    refine (forall₂_of_mapM h).imp fun c x hc => ?_
    simp only at hc
    split at hc
    · cases hc
      assumption
    · cases hc
  · intro h
    refine mapM_of_forall₂ (h.imp fun c x hc => ?_)
    simp [hc]

lemma csvRow_error_of_first {line : Nat} {l : String} {cells cells' : List String} {cell : String}
    (hl : l.splitOn "," = cells ++ cell :: cells')
    (hcells : ∀ c ∈ cells, Decimal.readFloat? (Text.trim c) ≠ none)
    (hcell : Decimal.readFloat? (Text.trim cell) = none) :
    csvRow line l = .error (.csv line ("'" ++ Text.trim cell ++ "' is not a number")) := by
  unfold csvRow
  rw [hl]
  refine mapM_error_of_first cells cell cells' (fun c hc => ?_) (by simp [hcell])
  obtain ⟨x, hx⟩ := Option.ne_none_iff_exists'.mp (hcells c hc)
  exact ⟨x, by simp [hx]⟩

lemma csvRow_error {line : Nat} {l : String} {e : DatasetError} (h : csvRow line l = .error e) :
    ∃ message, e = .csv line message := by
  obtain ⟨c, -, hc⟩ := exists_error_of_mapM h
  simp only at hc
  split at hc
  · cases hc
  · cases hc
    exact ⟨_, rfl⟩

lemma length_of_csvRow {line : Nat} {l : String} {row : List Float} (h : csvRow line l = .ok row) :
    row.length = (l.splitOn ",").length :=
  (csvRow_eq_ok_iff.mp h).length_eq.symm

/-! ### Numbered lines -/

/-- The lines of `ls` that are not blank, each with its index in the text, where `ls` starts at
index `k`. -/
def dataLines (k : Nat) (ls : List String) : List (Nat × String) :=
  ((List.range' k ls.length).zip ls).filter fun x => !Text.isBlankText x.2

@[simp] lemma dataLines_nil (k : Nat) : dataLines k [] = [] := rfl

lemma dataLines_cons (k : Nat) (l : String) (ls : List String) :
    dataLines k (l :: ls) =
      if Text.isBlankText l then dataLines (k + 1) ls else (k, l) :: dataLines (k + 1) ls := by
  cases h : Text.isBlankText l <;> simp [dataLines, List.range'_succ, h]

lemma dataLines_append (k : Nat) (a b : List String) :
    dataLines k (a ++ b) = dataLines k a ++ dataLines (k + a.length) b := by
  simp only [dataLines, List.length_append, ← List.range'_append, Nat.one_mul,
    List.zip_append List.length_range', List.filter_append]

lemma dataLines_eq_nil {k : Nat} {ls : List String} (h : ∀ l ∈ ls, Text.isBlankText l = true) :
    dataLines k ls = [] := by
  rw [dataLines, List.filter_eq_nil_iff]
  intro x hx
  simp [h x.2 (List.of_mem_zip hx).2]

lemma mem_dataLines {k : Nat} {ls : List String} {x : Nat × String} (h : x ∈ dataLines k ls) :
    x.2 ∈ ls ∧ Text.isBlankText x.2 = false := by
  obtain ⟨hx, hb⟩ := List.mem_filter.mp h
  exact ⟨(List.of_mem_zip hx).2, by simpa using hb⟩

lemma map_snd_dataLines (k : Nat) (ls : List String) :
    (dataLines k ls).map Prod.snd = ls.filter fun l => !Text.isBlankText l := by
  have h := List.filter_map (f := Prod.snd) (p := fun l => !Text.isBlankText l)
    (l := (List.range' k ls.length).zip ls)
  rw [List.map_snd_zip (by simp)] at h
  exact h.symm

lemma numbered_eq (ls : List String) :
    ((List.range ls.length).zip ls).filter (fun x => !Text.isBlankText x.2) = dataLines 0 ls := by
  rw [List.range_eq_range']
  rfl

/-! ### The header -/

/-- `header` is the first line of `text` that is not blank: the lines `pre` before it are
blank, and the lines `post` follow it. -/
structure HeaderLine (text : String) (pre : List String) (header : String) (post : List String) :
    Prop where
  lines_eq : Text.lines text = pre ++ header :: post
  blank_before : ∀ l ∈ pre, Text.isBlankText l = true
  not_blank : Text.isBlankText header = false

lemma exists_headerLine {text : String} (h : ∃ l ∈ Text.lines text, Text.isBlankText l = false) :
    ∃ pre header post, HeaderLine text pre header post := by
  obtain ⟨l, hl, hnb⟩ := h
  cases hd : (Text.lines text).dropWhile Text.isBlankText with
  | nil =>
    have := List.dropWhile_eq_nil_iff.mp hd l hl
    simp [hnb] at this
  | cons header post =>
    refine ⟨(Text.lines text).takeWhile Text.isBlankText, header, post, ⟨?_, ?_, ?_⟩⟩
    · rw [← hd, List.takeWhile_append_dropWhile]
    · intro x hx
      exact List.mem_takeWhile_imp hx
    · have := List.head_dropWhile_not Text.isBlankText (l := Text.lines text) (by simp [hd])
      simpa [hd] using this

lemma dataLines_header {pre post : List String} {header : String}
    (hpre : ∀ l ∈ pre, Text.isBlankText l = true) (hh : Text.isBlankText header = false) :
    dataLines 0 (pre ++ header :: post) =
      (pre.length, header) :: dataLines (pre.length + 1) post := by
  rw [dataLines_append, dataLines_eq_nil hpre, dataLines_cons, hh]
  simp

section HeaderLine

variable {name text : String} {pre post : List String} {header : String}

lemma ofCsv_of_rows_error (hh : HeaderLine text pre header post) {e : DatasetError}
    (he : (dataLines (pre.length + 1) post).mapM (fun x => csvRow (x.1 + 1) x.2) = .error e) :
    Dataset.ofCsv name text = .error e := by
  simp only [Dataset.ofCsv, numbered_eq, hh.lines_eq,
    dataLines_header hh.blank_before hh.not_blank, he]

lemma ofCsv_of_rows_ok (hh : HeaderLine text pre header post) {rows : List (List Float)}
    (hr : (dataLines (pre.length + 1) post).mapM (fun x => csvRow (x.1 + 1) x.2) = .ok rows) :
    Dataset.ofCsv name text = Dataset.ofRows name rows (some (header.splitOn ",").length)
      ((header.splitOn ",").map csvLabel) := by
  simp only [Dataset.ofCsv, numbered_eq, hh.lines_eq,
    dataLines_header hh.blank_before hh.not_blank, hr, List.length_map]

end HeaderLine

lemma ofRows_error_of_nonempty {name : String} {rows : List (List Float)} {columns : Option Nat}
    {labels : List String} {e : DatasetError} (hne : ∀ r ∈ rows, r ≠ [])
    (h : Dataset.ofRows name rows columns labels = .error e) :
    (∃ row found expected, e = .raggedRow name row found expected) ∨
      ∃ n w, e = .tooManyLabels name n w := by
  have hw : tableWidth rows columns labels = 0 → rows = [] := by
    cases rows with
    | nil => exact fun _ => rfl
    | cons r rs =>
      intro h0
      exact absurd (List.length_eq_zero_iff.mp h0) (hne r List.mem_cons_self)
  rcases hf : firstRagged (tableWidth rows columns labels) rows with _ | ⟨i, found⟩
  · rw [ofRows_of_widths hw (length_of_firstRagged_eq_none hf)] at h
    split at h
    · cases h
      exact .inr ⟨_, _, rfl⟩
    · cases h
  · rw [ofRows_of_ragged hw hf] at h
    cases h
    exact .inl ⟨_, _, _, rfl⟩

lemma ofCsv_error_kinds {name text : String} {e : DatasetError}
    (h : Dataset.ofCsv name text = .error e) :
    (∃ line message, e = .csv line message) ∨
      (∃ row found expected, e = .raggedRow name row found expected) ∨
      ∃ n w, e = .tooManyLabels name n w := by
  simp only [Dataset.ofCsv, numbered_eq] at h
  split at h
  · cases h
    exact .inl ⟨_, _, rfl⟩
  · split at h
    · rename_i e' hrows
      cases h
      obtain ⟨x, -, hx⟩ := exists_error_of_mapM hrows
      obtain ⟨m, rfl⟩ := csvRow_error hx
      exact .inl ⟨_, _, rfl⟩
    · rename_i rows hrows
      -- a line split at commas has a cell, so every row has a value
      have hne : ∀ r ∈ rows, r ≠ [] := by
        intro r hr
        obtain ⟨x, -, hx⟩ :=
          exists_of_forall₂_mem (List.Forall₂.flip (R := flip _) (forall₂_of_mapM hrows)) r hr
        rw [← List.length_pos_iff, length_of_csvRow hx, List.length_pos_iff]
        exact splitOn_comma_ne_nil _
      exact .inr (ofRows_error_of_nonempty hne h)

/-! ### The law -/

/-- Reading a table named `name` from `text`: what it gives for every arrangement of blank
lines, header, rows that read and cells that do not. -/
structure CsvLaw (name text : String) : Prop where
  /-- A text of blank lines has no header. -/
  missingHeader : (∀ l ∈ Text.lines text, Text.isBlankText l = true) →
    Dataset.ofCsv name text = .error (.csv 1 "missing header")
  /-- Otherwise the first line that is not blank is the header. -/
  header : (∃ l ∈ Text.lines text, Text.isBlankText l = false) →
    ∃ pre header post, HeaderLine text pre header post
  /-- The first cell of the text that is no number fails its line, numbered from one with the
  blank lines counted. -/
  firstBadCell : ∀ pre header mid bad rest cells cell cells',
    HeaderLine text pre header (mid ++ bad :: rest) →
    (∀ l ∈ mid, Text.isBlankText l = false →
      ∀ c ∈ l.splitOn ",", Decimal.readFloat? (Text.trim c) ≠ none) →
    Text.isBlankText bad = false → bad.splitOn "," = cells ++ cell :: cells' →
    (∀ c ∈ cells, Decimal.readFloat? (Text.trim c) ≠ none) →
    Decimal.readFloat? (Text.trim cell) = none →
    Dataset.ofCsv name text =
      .error (.csv (pre.length + mid.length + 2) ("'" ++ Text.trim cell ++ "' is not a number"))
  /-- When every cell reads, the table is built from the rows with the header's width and
  labels. -/
  rows : ∀ pre header post (rows : List (List Float)), HeaderLine text pre header post →
    List.Forall₂
      (fun l row => List.Forall₂ (fun c x => Decimal.readFloat? (Text.trim c) = some x)
        (l.splitOn ",") row)
      (post.filter fun l => !Text.isBlankText l) rows →
    Dataset.ofCsv name text = Dataset.ofRows name rows (some (header.splitOn ",").length)
      ((header.splitOn ",").map csvLabel)
  /-- Reading fails only on a line, a ragged row, or too many labels. -/
  errors : ∀ e, Dataset.ofCsv name text = .error e →
    (∃ line message, e = .csv line message) ∨
      (∃ row found expected, e = .raggedRow name row found expected) ∨
      ∃ n w, e = .tooManyLabels name n w
  /-- A header without rows gives a table without rows as wide as the header. -/
  headerOnly : ∀ pre header post, HeaderLine text pre header post →
    (∀ l ∈ post, Text.isBlankText l = true) →
    Dataset.ofCsv name text =
      .ok ⟨(header.splitOn ",").length, #[], (header.splitOn ",").map csvLabel⟩
  /-- A table that was read has the header's labels, at most as many as its width, and every
  row line has as many cells as the table has columns. -/
  widths : ∀ pre header post (d : Dataset), HeaderLine text pre header post →
    Dataset.ofCsv name text = .ok d →
    d.labels = (header.splitOn ",").map csvLabel ∧ (header.splitOn ",").length ≤ d.columns ∧
      ∀ l ∈ post, Text.isBlankText l = false → (l.splitOn ",").length = d.columns

/-- **Reading comma-separated text follows its line grammar.** -/
theorem Dataset.ofCsv_law (name text : String) : CsvLaw name text where
  missingHeader h := by
    simp only [Dataset.ofCsv, numbered_eq, dataLines_eq_nil h]
  header := exists_headerLine
  firstBadCell pre header mid bad rest cells cell cells' hh hmid hbad hcells hgood hcell := by
    -- the rows before the bad line read, and the bad line fails at `cell`
    have hbody : dataLines (pre.length + 1) (mid ++ bad :: rest) =
        dataLines (pre.length + 1) mid ++
          (pre.length + 1 + mid.length, bad) ::
            dataLines (pre.length + 1 + mid.length + 1) rest := by
      rw [dataLines_append, dataLines_cons, hbad]
      rfl
    apply ofCsv_of_rows_error hh
    rw [hbody]
    refine mapM_error_of_first _ _ _ (fun y hy => ?_) ?_
    · obtain ⟨hmem, hnb⟩ := mem_dataLines hy
      obtain ⟨row, hrow⟩ := exists_forall₂ _ fun c hc =>
        Option.ne_none_iff_exists'.mp (hmid _ hmem hnb c hc)
      exact ⟨row, csvRow_eq_ok_iff.mpr hrow⟩
    · rw [csvRow_error_of_first hcells hgood hcell,
        show pre.length + 1 + mid.length + 1 = pre.length + mid.length + 2 by omega]
  rows pre header post rows hh hrows := by
    apply ofCsv_of_rows_ok hh
    apply mapM_of_forall₂
    rw [← map_snd_dataLines (pre.length + 1)] at hrows
    exact (List.forall₂_map_left_iff.mp hrows).imp fun x row h => csvRow_eq_ok_iff.mpr h
  errors _ h := ofCsv_error_kinds h
  headerOnly pre header post hh hpost := by
    have hnone :
        (dataLines (pre.length + 1) post).mapM (fun x => csvRow (x.1 + 1) x.2) = .ok [] := by
      rw [dataLines_eq_nil hpost]
      rfl
    rw [ofCsv_of_rows_ok hh hnone,
      ofRows_of_widths (fun _ => rfl) (fun _ h => absurd h List.not_mem_nil)]
    simp [tableWidth]
  widths pre header post d hh hd := by
    cases hrows : (dataLines (pre.length + 1) post).mapM (fun x => csvRow (x.1 + 1) x.2) with
    | error e =>
      rw [ofCsv_of_rows_error hh hrows] at hd
      cases hd
    | ok rows =>
      rw [ofCsv_of_rows_ok hh hrows] at hd
      obtain ⟨-, hlen, hle, rfl⟩ := ofRows_eq_ok hd
      refine ⟨rfl, by simpa using hle, fun l hl hnb => ?_⟩
      -- a row line is one of the numbered lines, and its row has a sample per cell
      have hmem : l ∈ (dataLines (pre.length + 1) post).map Prod.snd := by
        rw [map_snd_dataLines]
        exact List.mem_filter.mpr ⟨hl, by simp [hnb]⟩
      obtain ⟨x, hx, rfl⟩ := List.mem_map.mp hmem
      obtain ⟨row, hrow, hcsv⟩ := exists_of_forall₂_mem (forall₂_of_mapM hrows) x hx
      rw [← length_of_csvRow hcsv]
      exact hlen row hrow

end SimRegress
