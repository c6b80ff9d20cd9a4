import SimRegress.Proofs.Comparison.Counting

/-!
The cap on failures changes only artifacts.

A comparison under a cap of `m` and the same comparison with no cap count, fail and report the
same things; only artifacts differ. The failures come in a fixed order, that of recording
(`Item.marks`): under the cap, exactly the data failures among the first `m` failures keep their
artifact, so the artifacts are a prefix of the uncapped ones and at most `m`. The flags of the
columns say which artifacts came, in the same order (`CapLaw`, `cap_only_trims_artifacts`).
-/

namespace SimRegress

/-- Where an artifact belongs: its file, dataset and column. -/
def Artifact.place (a : Artifact) : String × String × Nat := (a.file, a.dataset, a.column)

/-- The places of the columns flagged as having an artifact, in order. -/
def Outcome.flaggedPlaces (o : Outcome) : List (String × String × Nat) :=
  o.datasets.flatMap fun d =>
    (d.columns.filter (·.hasArtifact)).map fun c => (d.file, d.dataset, c.index)

/-- The columns of an item have no flag yet, and each artifact they can get sits at its column. -/
def Item.Placed : Item → Prop
  | .compared f n cs =>
    ∀ c ∈ cs, c.result.hasArtifact = false ∧ ∀ a ∈ c.artifact, a.place = (f, n, c.result.index)
  | _ => True

/-- **What the cap changes.** An outcome `o` under a cap of `m` and the uncapped outcome `o₀` of
the same comparison, whose failures in recording order are `fs` (each with the artifact it can
have), differ only in their artifacts and artifact flags: the artifacts under the cap are those
of the first `m` failures. -/
structure CapLaw (m : Nat) (fs : List (Option Artifact)) (o o₀ : Outcome) : Prop where
  compared : o.compared = o₀.compared
  failed : o.failed = o₀.failed
  files : o.files = o₀.files
  datasets : o.datasets.map (·.unflagged) = o₀.datasets.map (·.unflagged)
  ranked : o₀.failed = fs.length
  uncapped : o₀.artifacts = fs.filterMap id
  within : 0 < m → o.artifacts = (fs.take m).filterMap id
  trimmed : o.artifacts <+: o₀.artifacts
  bounded : 0 < m → o.artifacts.length ≤ m
  flagged : o.artifacts.map (·.place) = o.flaggedPlaces

section Flags

variable (cmp : Comparator)

lemma recordColumn_places (o : Outcome) (f n : String) (c : ColumnItem)
    (hc : c.result.hasArtifact = false ∧ ∀ a ∈ c.artifact, a.place = (f, n, c.result.index)) :
    ((capped cmp.maxFailures o.failed c.marks).filterMap id).map (·.place) =
      ([(cmp.recordColumn o c).2].filter (·.hasArtifact)).map fun r => (f, n, r.index) := by
  rw [recordColumn_eq]
  obtain ⟨r, a⟩ := c
  obtain ⟨hflag, hplace⟩ := hc
  dsimp only at hflag hplace
  simp only [ColumnItem.marks]
  cases hf : r.failed
  · simp [hflag]
  · rw [if_pos rfl, capped_singleton]
    split
    · cases a with
      | none => simp [hflag]
      | some a => simp [hplace a rfl]
    · simp [hflag]

lemma recordColumns_places (o : Outcome) (f n : String) (cs : List ColumnItem)
    (hcs : ∀ c ∈ cs,
      c.result.hasArtifact = false ∧ ∀ a ∈ c.artifact, a.place = (f, n, c.result.index)) :
    ((capped cmp.maxFailures o.failed (cs.flatMap (·.marks))).filterMap id).map (·.place) =
      ((cmp.recordColumns o cs).2.filter (·.hasArtifact)).map fun r => (f, n, r.index) := by
  induction cs generalizing o with
  | nil => simp
  | cons c cs ih =>
    have hc := recordColumn_places cmp o f n c (hcs c (by simp))
    have hrest := ih (cmp.recordColumn o c).1 fun c' hc' => hcs c' (by simp [hc'])
    have hfailed : (cmp.recordColumn o c).1.failed = o.failed + c.marks.length := by
      rw [recordColumn_eq]
    rw [hfailed] at hrest
    rw [List.flatMap_cons, capped_append, List.filterMap_append, List.map_append, hc, hrest,
      recordColumns_cons]
    by_cases h : (cmp.recordColumn o c).2.hasArtifact <;> simp [h]

lemma replay_flagged (o : Outcome) (items : List Item) (hp : ∀ i ∈ items, i.Placed)
    (ho : o.artifacts.map (·.place) = o.flaggedPlaces) :
    (cmp.replay o items).artifacts.map (·.place) = (cmp.replay o items).flaggedPlaces := by
  induction items generalizing o with
  | nil => simpa using ho
  | cons i items ih =>
    apply ih _ (fun j hj => hp j (by simp [hj]))
    rw [replayItem_artifacts]
    cases i with
    | file r => simp [Item.marks, capped_singleton, Outcome.flaggedPlaces, ho]
    | dataset f n side =>
      cases side <;> simp [Item.marks, capped_singleton, Outcome.flaggedPlaces, ho,
        FileVerdict.forDataset, DatasetResult.columns]
    | compared f n cs =>
      simp only [Outcome.flaggedPlaces] at ho
      simp only [replayItem_columns, Item.marks, Outcome.flaggedPlaces, recordColumns_fst,
        List.map_append, List.flatMap_append, List.flatMap_singleton, ho]
      have hcs : Item.Placed (.compared f n cs) := hp _ (by simp)
      rw [recordColumns_places cmp o f n cs hcs]
      rfl

end Flags

/-! ### The items of a comparison are placed -/

lemma placed_columnItems (t : Tolerance) (f n : String) (a b : Dataset) :
    ∀ c ∈ columnItems t f n a b,
      c.result.hasArtifact = false ∧ ∀ x ∈ c.artifact, x.place = (f, n, c.result.index) := by
  simp only [columnItems, List.mem_append, List.mem_map]
  rintro c (⟨k, -, rfl⟩ | ⟨k, -, rfl⟩)
  · refine ⟨rfl, fun x hx => ?_⟩
    simp only [referenceColumnItem, Option.mem_def, Option.ite_none_right_eq_some,
      Option.some.injEq] at hx
    obtain ⟨-, rfl⟩ := hx
    rfl
  · simp [extraColumnItem]

lemma placed_collectionItems (t : Tolerance) (file : String) (R C : Collection) :
    ∀ i ∈ collectionItems t file R C, i.Placed := by
  intro i hi
  cases i with
  | compared f n cs =>
    obtain ⟨rfl, a, b, -, -, rfl⟩ := mem_collectionItems_compared hi
    exact placed_columnItems t f n a b
  | _ => trivial

lemma placed_storeItems (t : Tolerance) (RS CS : Store) : ∀ i ∈ storeItems t RS CS, i.Placed := by
  intro i hi
  cases i with
  | compared f n cs =>
    obtain ⟨rc, cc, -, -, hin⟩ := mem_storeItems_compared hi
    exact placed_collectionItems t f rc cc _ hin
  | _ => trivial

/-! ### The cap on a replay -/

/-- **The cap on a replay** of placed items: counts, files and results do not depend on it, and
the artifacts are those of the first `m` failures. -/
theorem capLaw_replay (t : Tolerance) (m : Nat) (items : List Item) (hp : ∀ i ∈ items, i.Placed) :
    CapLaw m (items.flatMap (·.marks)) ((Comparator.mk t m).replay {} items)
      ((Comparator.mk t 0).replay {} items) where
  compared := by simp [replay_compared]
  failed := by simp [replay_failed]
  files := by simp [replay_files]
  datasets := by rw [replay_datasets, replay_datasets]
  ranked := by simp [replay_failed]
  uncapped := by simp [replay_artifacts, capped]
  within hm := by simp [replay_artifacts, capped, Nat.pos_iff_ne_zero.mp hm]
  trimmed := by
    simp only [replay_artifacts, capped]
    split
    · simp
    · simpa using (List.take_prefix _ _).filterMap id
  bounded hm := by
    simp only [replay_artifacts, capped, Nat.pos_iff_ne_zero.mp hm]
    calc _ ≤ ((items.flatMap (·.marks)).take m).length := List.length_filterMap_le _ _
      _ ≤ m := List.length_take_le _ _
  flagged := replay_flagged _ {} items hp rfl

/-- **The cap on failures changes only artifacts.** For every comparison, of two collections or
of two stores, with any tolerances: under a cap of `m`, the counts, the files and the results up
to artifact flags are those with no cap; the artifacts are those that the data failures among the
first `m` failures in recording order have with no cap, a prefix of them and at most `m`; and the
flags mark exactly the columns of the artifacts, in order. -/
theorem cap_only_trims_artifacts (t : Tolerance) (m : Nat) (file : String) (R C : Collection)
    (RS CS : Store) :
    CapLaw m ((collectionItems t file R C).flatMap (·.marks))
        ((Comparator.mk t m).compare file R C) ((Comparator.mk t 0).compare file R C) ∧
      CapLaw m ((storeItems t RS CS).flatMap (·.marks))
        ((Comparator.mk t m).compareStores RS CS) ((Comparator.mk t 0).compareStores RS CS) := by
  constructor
  · rw [compare_eq_replay, compare_eq_replay]
    exact capLaw_replay t m _ (placed_collectionItems t file R C)
  · rw [compareStores_eq_replay, compareStores_eq_replay]
    exact capLaw_replay t m _ (placed_storeItems t RS CS)

end SimRegress
