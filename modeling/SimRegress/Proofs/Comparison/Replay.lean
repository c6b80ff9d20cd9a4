import Mathlib
import SimRegress.Comparison.Engine

/-!
A comparison as the replay of what it records.

At each item it meets (a file or a dataset on one side only, or a column) the engine counts the
item, counts a failure if it failed, and attaches an artifact when the failure is within the cap
and concerns data on both sides. Which items there are, in which order, what their results are
and which artifact each would get does not depend on the cap: `collectionItems` and `storeItems`
list them. `Comparator.replay` records a list of items, and both comparisons are replays of
their items (`compare_eq_replay`, `compareStores_eq_replay`), so that laws of counting, of the
cap and of splitting by file become laws of `replay`.
-/

namespace SimRegress

/-- A column as compared, before the cap applies: its result, and the artifact it gets if it
fails within the cap. -/
structure ColumnItem where
  result : ColumnResult
  artifact : Option Artifact

/-- The dataset verdict for a dataset that the side `v` of a file verdict lacks. -/
def FileVerdict.forDataset : FileVerdict → DatasetVerdict
  | .missingInCurrent => .missingInCurrent
  | .missingInReference => .missingInReference

/-- What a comparison records, in order. -/
inductive Item where
  /-- A file on one side only. -/
  | file (r : FileResult)
  /-- A dataset on one side only; `side` says which side lacks it. -/
  | dataset (file name : String) (side : FileVerdict)
  /-- A dataset on both sides, column by column. -/
  | compared (file name : String) (columns : List ColumnItem)

/-! ### Replaying items -/

/-- Records a column, with its artifact if it failed within the cap. -/
def Comparator.recordColumn (cmp : Comparator) (o : Outcome) (c : ColumnItem) :
    Outcome × ColumnResult :=
  let (o, withinCap) := cmp.record o c.result.failed
  match c.artifact with
  | some a =>
    if withinCap then
      ({ o with artifacts := o.artifacts ++ [a] }, { c.result with hasArtifact := true })
    else (o, c.result)
  | none => (o, c.result)

/-- Records columns in order, collecting their results. -/
def Comparator.recordColumns (cmp : Comparator) :
    Outcome → List ColumnItem → Outcome × List ColumnResult
  | o, [] => (o, [])
  | o, c :: cs =>
    let (o, r) := cmp.recordColumn o c
    let (o, rs) := cmp.recordColumns o cs
    (o, r :: rs)

/-- Records one item. -/
def Comparator.replayItem (cmp : Comparator) (o : Outcome) : Item → Outcome
  | .file r => cmp.fileFailure o r.file r.verdict
  | .dataset file name side => cmp.datasetFailure o file name side.forDataset
  | .compared file name cs =>
    let (o, rs) := cmp.recordColumns o cs
    { o with datasets := o.datasets ++ [⟨file, name, .compared rs⟩] }

/-- Records items in order. -/
def Comparator.replay (cmp : Comparator) (o : Outcome) (items : List Item) : Outcome :=
  items.foldl cmp.replayItem o

section Replay

variable (cmp : Comparator)

@[simp] lemma recordColumns_nil (o : Outcome) : cmp.recordColumns o [] = (o, []) := rfl

@[simp] lemma recordColumns_cons (o : Outcome) (c : ColumnItem) (cs : List ColumnItem) :
    cmp.recordColumns o (c :: cs) =
      ((cmp.recordColumns (cmp.recordColumn o c).1 cs).1,
        (cmp.recordColumn o c).2 :: (cmp.recordColumns (cmp.recordColumn o c).1 cs).2) := rfl

lemma recordColumns_append (o : Outcome) (cs ds : List ColumnItem) :
    cmp.recordColumns o (cs ++ ds) =
      ((cmp.recordColumns (cmp.recordColumns o cs).1 ds).1,
        (cmp.recordColumns o cs).2 ++ (cmp.recordColumns (cmp.recordColumns o cs).1 ds).2) := by
  induction cs generalizing o with
  | nil => rfl
  | cons c cs ih => simp [ih]

@[simp] lemma replay_nil (o : Outcome) : cmp.replay o [] = o := rfl

@[simp] lemma replay_cons (o : Outcome) (i : Item) (items : List Item) :
    cmp.replay o (i :: items) = cmp.replay (cmp.replayItem o i) items := rfl

lemma replay_append (o : Outcome) (xs ys : List Item) :
    cmp.replay o (xs ++ ys) = cmp.replay (cmp.replay o xs) ys := by
  simp [Comparator.replay, List.foldl_append]

end Replay

/-! ### The items of a comparison -/

/-- The item of the reference's column `k`. -/
def referenceColumnItem (t : Tolerance) (file name : String) (reference current : Dataset)
    (k : Nat) : ColumnItem :=
  let rl := reference.label k
  let cl := current.label k
  let present := k < current.columns
  let verdict := if present then columnVerdict t reference current k else .missingColumn
  ⟨⟨k, rl, cl, present && rl != cl, verdict, false⟩,
    if verdict.plottable then some (Artifact.of file name k reference current) else none⟩

/-- The item of column `k`, which only the current dataset has. -/
def extraColumnItem (current : Dataset) (k : Nat) : ColumnItem :=
  ⟨⟨k, none, current.label k, false, .extraColumn, false⟩, none⟩

/-- The columns of two datasets: the reference's, then those only the current one has. -/
def columnItems (t : Tolerance) (file name : String) (reference current : Dataset) :
    List ColumnItem :=
  (List.range reference.columns).map (referenceColumnItem t file name reference current) ++
    ((List.range current.columns).drop reference.columns).map (extraColumnItem current)

/-- The items of two collections of the file `file`: the reference's datasets in order, each
compared or missing, then the datasets only the current collection has. -/
def collectionItems (t : Tolerance) (file : String) (reference current : Collection) : List Item :=
  reference.entries.map (fun (name, rd) =>
      match current.get? name with
      | some cd => .compared file name (columnItems t file name rd cd)
      | none => .dataset file name .missingInCurrent) ++
    current.names.filterMap fun name =>
      match reference.get? name with
      | some _ => none
      | none => some (.dataset file name .missingInReference)

/-- The items of two stores: the reference's files in order, each compared or missing, then the
files only the current store has. -/
def storeItems (t : Tolerance) (reference current : Store) : List Item :=
  reference.files.flatMap (fun (file, rc) =>
      match current.get? file with
      | some cc => collectionItems t file rc cc
      | none => [.file ⟨file, .missingInCurrent⟩]) ++
    current.files.filterMap fun (file, _) =>
      match reference.get? file with
      | some _ => none
      | none => some (.file ⟨file, .missingInReference⟩)

/-! ### The engine replays the items -/

section Engine

variable (cmp : Comparator)

lemma recordColumn_plottable (o : Outcome) (r : ColumnResult) (a : Artifact) :
    cmp.recordColumn o ⟨r, if r.verdict.plottable then some a else none⟩ =
      if (cmp.record o r.failed).2 && r.verdict.plottable then
        ({ (cmp.record o r.failed).1 with artifacts := (cmp.record o r.failed).1.artifacts ++ [a] },
          { r with hasArtifact := true })
      else ((cmp.record o r.failed).1, r) := by
  cases hp : r.verdict.plottable <;> cases hw : (cmp.record o r.failed).2 <;>
    simp [Comparator.recordColumn, hw]

lemma referenceColumn_eq_recordColumn (file name : String) (reference current : Dataset)
    (o : Outcome) (k : Nat) :
    cmp.referenceColumn file name reference current o k =
      cmp.recordColumn o (referenceColumnItem cmp.tolerance file name reference current k) :=
  (recordColumn_plottable cmp o _ _).symm

lemma extraColumn_eq_recordColumn (current : Dataset) (o : Outcome) (k : Nat) :
    cmp.extraColumn current o k = cmp.recordColumn o (extraColumnItem current k) := rfl

lemma collectOver_eq_recordColumns (f : Nat → ColumnItem) (o : Outcome) (ks : List Nat) :
    collectOver (fun o k => cmp.recordColumn o (f k)) o ks = cmp.recordColumns o (ks.map f) := by
  -- the fold carries the results collected so far; they stay in front
  suffices h : ∀ (rs : List ColumnResult),
      ks.foldl (fun (acc : Outcome × List ColumnResult) k =>
        ((cmp.recordColumn acc.1 (f k)).1, acc.2 ++ [(cmp.recordColumn acc.1 (f k)).2])) (o, rs) =
      ((cmp.recordColumns o (ks.map f)).1, rs ++ (cmp.recordColumns o (ks.map f)).2) by
    simpa [collectOver] using h []
  induction ks generalizing o with
  | nil => simp
  | cons k ks ih => intro rs; simp [ih]

lemma compareDatasets_eq_recordColumns (file name : String) (reference current : Dataset)
    (o : Outcome) :
    cmp.compareDatasets file name reference current o =
      cmp.recordColumns o (columnItems cmp.tolerance file name reference current) := by
  have hr : cmp.referenceColumn file name reference current = fun o k =>
      cmp.recordColumn o (referenceColumnItem cmp.tolerance file name reference current k) := by
    funext o k; exact referenceColumn_eq_recordColumn cmp file name reference current o k
  have he : cmp.extraColumn current = fun o k => cmp.recordColumn o (extraColumnItem current k) := by
    funext o k; exact extraColumn_eq_recordColumn cmp current o k
  simp only [Comparator.compareDatasets, hr, he, collectOver_eq_recordColumns, columnItems,
    recordColumns_append]

lemma compareCollections_eq_replay (file : String) (reference current : Collection)
    (o : Outcome) :
    cmp.compareCollections file reference current o =
      cmp.replay o (collectionItems cmp.tolerance file reference current) := by
  rw [collectionItems, replay_append]
  simp only [Comparator.compareCollections, Comparator.replay, List.foldl_map, List.foldl_filterMap]
  congr 1
  · funext o name
    cases reference.get? name <;> simp [Comparator.replayItem, FileVerdict.forDataset]
  · congr 1
    funext o e
    cases current.get? e.1 <;>
      simp [Comparator.replayItem, compareDatasets_eq_recordColumns, FileVerdict.forDataset]

/-- **A comparison of two collections replays their items.** -/
theorem compare_eq_replay (file : String) (reference current : Collection) :
    cmp.compare file reference current =
      cmp.replay {} (collectionItems cmp.tolerance file reference current) :=
  compareCollections_eq_replay cmp file reference current {}

/-- **A comparison of two stores replays their items.** -/
theorem compareStores_eq_replay (reference current : Store) :
    cmp.compareStores reference current =
      cmp.replay {} (storeItems cmp.tolerance reference current) := by
  rw [storeItems, replay_append]
  simp only [Comparator.compareStores, Comparator.replay, List.foldl_flatMap, List.foldl_filterMap]
  congr 1
  · funext o e
    cases reference.get? e.1 <;> simp [Comparator.replayItem]
  · congr 1
    funext o e
    cases current.get? e.1 <;>
      simp [Comparator.replayItem, compareCollections_eq_replay, Comparator.replay]

end Engine

/-! ### What a replay records -/

/-- A column result without its artifact flag, the part that does not depend on the cap. -/
def ColumnResult.unflagged (r : ColumnResult) : ColumnResult := { r with hasArtifact := false }

/-- A dataset result without the artifact flags of its columns. -/
def DatasetResult.unflagged (d : DatasetResult) : DatasetResult :=
  match d.verdict with
  | .compared cs => { d with verdict := .compared (cs.map (·.unflagged)) }
  | _ => d

/-- The failure a column adds, with the artifact it can have; nothing if it passed. -/
def ColumnItem.marks (c : ColumnItem) : List (Option Artifact) :=
  if c.result.failed then [c.artifact] else []

/-- The failures an item adds, in order, each with the artifact it can have. -/
def Item.marks : Item → List (Option Artifact)
  | .file _ => [none]
  | .dataset .. => [none]
  | .compared _ _ cs => cs.flatMap (·.marks)

/-- The number of things an item compares. -/
def Item.size : Item → Nat
  | .compared _ _ cs => cs.length
  | _ => 1

/-- The file result of an item. -/
def Item.fileResults : Item → List FileResult
  | .file r => [r]
  | _ => []

/-- The dataset result of an item, without artifact flags. -/
def Item.datasetResults : Item → List DatasetResult
  | .file _ => []
  | .dataset f n side => [⟨f, n, side.forDataset⟩]
  | .compared f n cs => [⟨f, n, .compared (cs.map (·.result.unflagged))⟩]

/-- The failures that get their artifact under a cap of `m`, when `n` failures came before: all
for no cap (`m = 0`), else those up to the `m`-th failure. -/
def capped (m n : Nat) (fs : List α) : List α := if m = 0 then fs else fs.take (m - n)

lemma capped_append (m n : Nat) (xs ys : List α) :
    capped m n (xs ++ ys) = capped m n xs ++ capped m (n + xs.length) ys := by
  unfold capped
  split
  · rfl
  · rw [List.take_append, Nat.sub_sub]

@[simp] lemma capped_nil (m n : Nat) : capped m n ([] : List α) = [] := by
  simp [capped]

lemma capped_singleton (m n : Nat) (x : α) :
    capped m n [x] = if m = 0 ∨ n < m then [x] else [] := by
  unfold capped
  by_cases hm : m = 0
  · simp [hm]
  by_cases hn : n < m
  · have hk : m - n = (m - n - 1) + 1 := by omega
    rw [if_neg hm, if_pos (.inr hn), hk, List.take_succ_cons, List.take_nil]
  · rw [if_neg hm, if_neg (by omega), Nat.sub_eq_zero_of_le (by omega), List.take_zero]

@[simp] lemma failed_unflagged (r : ColumnResult) : r.unflagged.failed = r.failed := rfl

section Laws

variable (cmp : Comparator)

@[simp] lemma replayItem_file (o : Outcome) (r : FileResult) :
    cmp.replayItem o (.file r) =
      { o with compared := o.compared + 1, failed := o.failed + 1, files := o.files ++ [r] } := rfl

@[simp] lemma replayItem_dataset (o : Outcome) (f n : String) (side : FileVerdict) :
    cmp.replayItem o (.dataset f n side) =
      { o with
        compared := o.compared + 1, failed := o.failed + 1
        datasets := o.datasets ++ [⟨f, n, side.forDataset⟩] } := rfl

@[simp] lemma replayItem_columns (o : Outcome) (f n : String) (cs : List ColumnItem) :
    cmp.replayItem o (.compared f n cs) =
      { (cmp.recordColumns o cs).1 with
        datasets :=
          (cmp.recordColumns o cs).1.datasets ++ [⟨f, n, .compared (cmp.recordColumns o cs).2⟩] } :=
  rfl

/-- **One column.** It is counted, its failure too, and it gets its artifact exactly when that
is among the failures within the cap. -/
lemma recordColumn_eq (o : Outcome) (c : ColumnItem) :
    cmp.recordColumn o c =
      ({ o with
          compared := o.compared + 1, failed := o.failed + c.marks.length
          artifacts := o.artifacts ++ (capped cmp.maxFailures o.failed c.marks).filterMap id },
        if ((capped cmp.maxFailures o.failed c.marks).filterMap id).isEmpty then c.result
        else { c.result with hasArtifact := true }) := by
  obtain ⟨r, a⟩ := c
  simp only [Comparator.recordColumn, Comparator.record, ColumnItem.marks]
  cases hf : r.failed
  · cases a <;> simp
  · -- a failure: within the cap when there is no cap or fewer than the cap came before
    cases a <;> by_cases hc : cmp.maxFailures = 0 ∨ o.failed < cmp.maxFailures <;>
      simp [capped_singleton, hc]

/-- **Columns in order.** Each is counted, and the artifacts that come are those of the failures
within the cap. -/
lemma recordColumns_fst (o : Outcome) (cs : List ColumnItem) :
    (cmp.recordColumns o cs).1 =
      { o with
        compared := o.compared + cs.length, failed := o.failed + (cs.flatMap (·.marks)).length
        artifacts :=
          o.artifacts ++
            (capped cmp.maxFailures o.failed (cs.flatMap (·.marks))).filterMap id } := by
  induction cs generalizing o with
  | nil => simp
  | cons c cs ih =>
    simp only [recordColumns_cons, ih, recordColumn_eq, List.flatMap_cons, capped_append,
      List.filterMap_append, List.length_append, List.append_assoc, List.length_cons]
    congr 1 <;> omega

lemma recordColumns_snd_unflagged (o : Outcome) (cs : List ColumnItem) :
    (cmp.recordColumns o cs).2.map (·.unflagged) = cs.map (·.result.unflagged) := by
  induction cs generalizing o with
  | nil => rfl
  | cons c cs ih =>
    simp only [recordColumns_cons, List.map_cons, ih, recordColumn_eq]
    split <;> rfl

@[simp] lemma replayItem_compared (o : Outcome) (i : Item) :
    (cmp.replayItem o i).compared = o.compared + i.size := by
  cases i <;> simp [recordColumns_fst, Item.size]

@[simp] lemma replayItem_failed (o : Outcome) (i : Item) :
    (cmp.replayItem o i).failed = o.failed + i.marks.length := by
  cases i <;> simp [recordColumns_fst, Item.marks]

@[simp] lemma replayItem_files (o : Outcome) (i : Item) :
    (cmp.replayItem o i).files = o.files ++ i.fileResults := by
  cases i <;> simp [recordColumns_fst, Item.fileResults]

lemma replayItem_datasets (o : Outcome) (i : Item) :
    (cmp.replayItem o i).datasets.map (·.unflagged) =
      o.datasets.map (·.unflagged) ++ i.datasetResults := by
  cases i with
  | file r => simp [Item.datasetResults]
  | dataset f n side =>
    cases side <;> simp [Item.datasetResults, FileVerdict.forDataset, DatasetResult.unflagged]
  | compared f n cs =>
    simp [recordColumns_fst, Item.datasetResults, DatasetResult.unflagged,
      recordColumns_snd_unflagged]

lemma replayItem_artifacts (o : Outcome) (i : Item) :
    (cmp.replayItem o i).artifacts =
      o.artifacts ++ (capped cmp.maxFailures o.failed i.marks).filterMap id := by
  cases i with
  | compared f n cs => simp [recordColumns_fst, Item.marks]
  | _ => simp [Item.marks, capped_singleton]

/-- **Counting.** Every item adds what it compares. -/
lemma replay_compared (o : Outcome) (items : List Item) :
    (cmp.replay o items).compared = o.compared + (items.map (·.size)).sum := by
  induction items generalizing o with
  | nil => simp
  | cons i items ih => simp [ih]; omega

lemma replay_failed (o : Outcome) (items : List Item) :
    (cmp.replay o items).failed = o.failed + (items.flatMap (·.marks)).length := by
  induction items generalizing o with
  | nil => simp
  | cons i items ih => simp [ih]; omega

lemma replay_files (o : Outcome) (items : List Item) :
    (cmp.replay o items).files = o.files ++ items.flatMap (·.fileResults) := by
  induction items generalizing o with
  | nil => simp
  | cons i items ih => simp [ih]

lemma replay_datasets (o : Outcome) (items : List Item) :
    (cmp.replay o items).datasets.map (·.unflagged) =
      o.datasets.map (·.unflagged) ++ items.flatMap (·.datasetResults) := by
  induction items generalizing o with
  | nil => simp
  | cons i items ih => simp [ih, replayItem_datasets]

/-- **The cap.** The artifacts that come are those of the failures within the cap, counted from
the failures recorded before. -/
lemma replay_artifacts (o : Outcome) (items : List Item) :
    (cmp.replay o items).artifacts =
      o.artifacts ++ (capped cmp.maxFailures o.failed (items.flatMap (·.marks))).filterMap id := by
  induction items generalizing o with
  | nil => simp
  | cons i items ih => simp [ih, replayItem_artifacts, capped_append]

end Laws

end SimRegress
