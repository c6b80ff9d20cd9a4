import SimRegress.Proofs.Comparison.Replay

/-!
Comparing two stores, file by file.

With no cap a replay adds up: recording items after an outcome appends what recording them alone
gives (`replay_uncapped`). So comparing two stores with no cap is comparing the files both have,
each on its own, with the files that one side lacks added in: the counts are sums, the dataset
results and artifacts concatenations in the order of the reference, and the file results list
the reference's missing files, then the current store's (`compareStores_by_file`). A store of a
single file compared with another of that file alone is the comparison of the file, under any cap.
-/

namespace SimRegress

/-- Two outcomes one after the other. -/
def Outcome.append (a b : Outcome) : Outcome :=
  ⟨a.compared + b.compared, a.failed + b.failed, a.files ++ b.files, a.datasets ++ b.datasets,
    a.artifacts ++ b.artifacts⟩

/-- Outcomes one after the other. -/
def Outcome.concat (os : List Outcome) : Outcome := os.foldr Outcome.append {}

/-- The names of the files of a store, in order. -/
def Store.names (s : Store) : List String := s.files.map (·.1)

/-- The names of the files of `s` that `other` lacks, in order. -/
def Store.namesNotIn (s other : Store) : List String :=
  s.names.filter fun f => (other.get? f).isNone

/-- The comparisons of the files that both stores have, in the order of the reference. -/
def Comparator.fileComparisons (cmp : Comparator) (reference current : Store) : List Outcome :=
  reference.files.filterMap fun e => (current.get? e.1).map (cmp.compare e.1 e.2)

@[simp] lemma append_empty (o : Outcome) : o.append {} = o := by
  obtain ⟨c, f, fs, ds, as⟩ := o
  simp [Outcome.append]

lemma append_assoc (a b c : Outcome) : (a.append b).append c = a.append (b.append c) := by
  simp [Outcome.append, Nat.add_assoc]

@[simp] lemma concat_nil : Outcome.concat [] = {} := rfl

@[simp] lemma concat_cons (o : Outcome) (os : List Outcome) :
    Outcome.concat (o :: os) = o.append (Outcome.concat os) := rfl

lemma storeItems_eq (t : Tolerance) (R C : Store) :
    storeItems t R C =
      R.files.flatMap (fun e =>
          match C.get? e.1 with
          | some cc => collectionItems t e.1 e.2 cc
          | none => [.file ⟨e.1, .missingInCurrent⟩]) ++
        ((C.namesNotIn R).map fun f => (⟨f, .missingInReference⟩ : FileResult)).map .file := by
  rw [storeItems]
  congr 1
  simp only [Store.namesNotIn, Store.names, List.map_map]
  induction C.files with
  | nil => rfl
  | cons e l ih =>
    obtain ⟨f, c⟩ := e
    cases hr : R.get? f <;> simp [hr, ih]

section Uncapped

variable (cmp : Comparator) (h0 : cmp.maxFailures = 0)
include h0

lemma recordColumn_uncapped (o : Outcome) (c : ColumnItem) :
    cmp.recordColumn o c = (o.append (cmp.recordColumn {} c).1, (cmp.recordColumn {} c).2) := by
  simp [recordColumn_eq, capped, h0, Outcome.append]

lemma recordColumns_uncapped (o : Outcome) (cs : List ColumnItem) :
    cmp.recordColumns o cs =
      (o.append (cmp.recordColumns {} cs).1, (cmp.recordColumns {} cs).2) := by
  induction cs generalizing o with
  | nil => simp
  | cons c cs ih =>
    rw [recordColumns_cons, recordColumns_cons, ih, ih (cmp.recordColumn {} c).1,
      recordColumn_uncapped cmp h0 o c, append_assoc]

lemma replayItem_uncapped (o : Outcome) (i : Item) :
    cmp.replayItem o i = o.append (cmp.replayItem {} i) := by
  cases i with
  | compared f n cs =>
    simp only [replayItem_columns]
    rw [recordColumns_uncapped cmp h0 o cs]
    simp [Outcome.append]
  | _ => simp [Outcome.append]

/-- **With no cap a replay adds up.** -/
lemma replay_uncapped (o : Outcome) (items : List Item) :
    cmp.replay o items = o.append (cmp.replay {} items) := by
  induction items generalizing o with
  | nil => simp
  | cons i items ih =>
    rw [replay_cons, replay_cons, ih, ih (cmp.replayItem {} i), replayItem_uncapped cmp h0 o i,
      append_assoc]

lemma replay_append_uncapped (xs ys : List Item) :
    cmp.replay {} (xs ++ ys) = (cmp.replay {} xs).append (cmp.replay {} ys) := by
  rw [replay_append, replay_uncapped cmp h0]

lemma replay_flatMap_uncapped (l : List α) (g : α → List Item) :
    cmp.replay {} (l.flatMap g) = Outcome.concat (l.map fun x => cmp.replay {} (g x)) := by
  induction l with
  | nil => simp
  | cons x l ih => rw [List.flatMap_cons, replay_append_uncapped cmp h0, ih]; rfl

lemma replay_fileItems (rs : List FileResult) :
    cmp.replay {} (rs.map .file) = ⟨rs.length, rs.length, rs, [], []⟩ := by
  induction rs with
  | nil => rfl
  | cons r rs ih =>
    rw [List.map_cons, replay_cons, replay_uncapped cmp h0, ih]
    simp [Outcome.append, Nat.add_comm]

/-- **Uncapped, a comparison of stores is its files one after the other**: the reference's, each
compared or missing, then those only the current store has. -/
lemma compareStores_uncapped (R C : Store) :
    cmp.compareStores R C =
      (Outcome.concat (R.files.map fun e =>
          match C.get? e.1 with
          | some cc => cmp.compare e.1 e.2 cc
          | none => ⟨1, 1, [⟨e.1, .missingInCurrent⟩], [], []⟩)).append
        ⟨(C.namesNotIn R).length, (C.namesNotIn R).length,
          (C.namesNotIn R).map (⟨·, .missingInReference⟩), [], []⟩ := by
  rw [compareStores_eq_replay, storeItems_eq, replay_append_uncapped cmp h0,
    replay_flatMap_uncapped cmp h0, replay_fileItems cmp h0]
  congr 2
  · congr 1
    funext e
    cases C.get? e.1 <;> simp [compare_eq_replay]
  -- the current store's missing files count one each
  all_goals exact List.length_map _

end Uncapped

lemma compare_files (cmp : Comparator) (f : String) (R C : Collection) :
    (cmp.compare f R C).files = [] := by
  rw [compare_eq_replay, replay_files, List.nil_append, List.flatMap_eq_nil_iff]
  intro i hi
  cases i with
  | file r =>
    simp only [collectionItems, List.mem_append, List.mem_map, List.mem_filterMap] at hi
    rcases hi with ⟨e, -, he⟩ | ⟨n, -, he⟩
    · cases h : C.get? e.1 <;> simp [h] at he
    · cases h : R.get? n <;> simp [h] at he
  | _ => rfl

lemma concat_referenceFiles (cmp : Comparator) (C : Store) (l : List (String × Collection)) :
    Outcome.concat (l.map fun e =>
        match C.get? e.1 with
        | some cc => cmp.compare e.1 e.2 cc
        | none => ⟨1, 1, [⟨e.1, .missingInCurrent⟩], [], []⟩) =
      ⟨((l.filterMap fun e => (C.get? e.1).map (cmp.compare e.1 e.2)).map (·.compared)).sum +
          (l.filter fun e => (C.get? e.1).isNone).length,
        ((l.filterMap fun e => (C.get? e.1).map (cmp.compare e.1 e.2)).map (·.failed)).sum +
          (l.filter fun e => (C.get? e.1).isNone).length,
        (l.filter fun e => (C.get? e.1).isNone).map (⟨·.1, .missingInCurrent⟩),
        (l.filterMap fun e => (C.get? e.1).map (cmp.compare e.1 e.2)).flatMap (·.datasets),
        (l.filterMap fun e => (C.get? e.1).map (cmp.compare e.1 e.2)).flatMap (·.artifacts)⟩ := by
  induction l with
  | nil => rfl
  | cons e l ih =>
    rw [List.map_cons, concat_cons, ih]
    cases hc : C.get? e.1 with
    | none =>
      simp only [hc, Outcome.append, List.filterMap_cons, List.filter_cons, Option.isNone_none,
        if_true, Option.map_none, List.length_cons, List.map_cons, List.cons_append,
        List.nil_append, Outcome.mk.injEq, and_true]
      exact ⟨by omega, by omega⟩
    | some cc => simp [hc, Outcome.append, compare_files, Nat.add_assoc]

/-- **Comparing two stores, file by file.** With no cap, the counts of a comparison of two stores
are the sums of those of the files both have, compared on their own in the reference's order, plus
one for each file that one side lacks; its dataset results and artifacts are theirs one after the
other; its file results are the reference's files missing in the current store, then the current
store's files missing in the reference. And under any cap, two stores of the same single file
compare as the file does. -/
theorem compareStores_by_file (t : Tolerance) (R C : Store) :
    ((Comparator.mk t 0).compareStores R C).compared =
        (((Comparator.mk t 0).fileComparisons R C).map (·.compared)).sum +
          (R.namesNotIn C).length + (C.namesNotIn R).length ∧
      ((Comparator.mk t 0).compareStores R C).failed =
        (((Comparator.mk t 0).fileComparisons R C).map (·.failed)).sum +
          (R.namesNotIn C).length + (C.namesNotIn R).length ∧
      ((Comparator.mk t 0).compareStores R C).datasets =
        ((Comparator.mk t 0).fileComparisons R C).flatMap (·.datasets) ∧
      ((Comparator.mk t 0).compareStores R C).artifacts =
        ((Comparator.mk t 0).fileComparisons R C).flatMap (·.artifacts) ∧
      ((Comparator.mk t 0).compareStores R C).files =
        (R.namesNotIn C).map (⟨·, .missingInCurrent⟩) ++
          (C.namesNotIn R).map (⟨·, .missingInReference⟩) ∧
      ∀ (m : Nat) (f : String) (rc cc : Collection),
        (Comparator.mk t m).compareStores ⟨[(f, rc)]⟩ ⟨[(f, cc)]⟩ =
          (Comparator.mk t m).compare f rc cc := by
  have hsplit := compareStores_uncapped (Comparator.mk t 0) rfl R C
  rw [concat_referenceFiles] at hsplit
  have hnames : (R.files.filter fun e => (C.get? e.1).isNone).map (·.1) = R.namesNotIn C := by
    simp [Store.namesNotIn, Store.names, List.filter_map, Function.comp_def]
  refine ⟨?_, ?_, ?_, ?_, ?_, ?_⟩
  · rw [hsplit, ← hnames]
    simp [Outcome.append, Comparator.fileComparisons]
  · rw [hsplit, ← hnames]
    simp [Outcome.append, Comparator.fileComparisons]
  · rw [hsplit]
    simp [Outcome.append, Comparator.fileComparisons]
  · rw [hsplit]
    simp [Outcome.append, Comparator.fileComparisons]
  · rw [hsplit, ← hnames]
    simp [Outcome.append]
  · intro m f rc cc
    rw [compareStores_eq_replay, compare_eq_replay, storeItems_eq]
    simp [Store.get?, Store.namesNotIn, Store.names]

end SimRegress
