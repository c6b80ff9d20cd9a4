import Mathlib
import SimRegress.Job.Discovery
import SimRegress.Proofs.Tree.Walk
import SimRegress.Proofs.Job.Ids

/-!
# Discovery as a fold over the selections

Discovery takes the selections left to right over entries that map directories to jobs. A
selection names a directory below the root (`selectionBase`); one that starts with `^` drops the
entries below that directory, any other inserts the job of every example its walk reaches
(`Tree.reaches`, `Tree.mem_exampleDirs_iff`), replacing an entry for the same directory. The
entries stay in path order throughout (`insertJob_spec`), so a directory has at most one job.

What a selection does to the entries is `select_spec`: it succeeds exactly when its directory
is there and every labels file its walk meets can be read (`Tree.SelectionOk`), and afterwards
the entries hold the job of exactly the directories chosen so far, `Tree.selects` applied once
more. The fold over all selections is `foldlM_select`; `Tree.selected` is the choice it ends
with. The walk looks at a name for the skip rule only when it is text, so a directory whose name
is not UTF-8 is always entered. In a tree whose directories have UTF-8 names a file system could
give (`Tree.TextNamed`) the directories of the jobs have distinct ids (`jobId_inj`); names that
are not UTF-8 can share an id. The laws together are `discover_selection_fold`.
-/

namespace SimRegress

/-! ### Path order and insertion -/

/-- The order the map keeps its paths in is the lexicographic order of their components. -/
theorem TreePath.lt_iff_lt : ∀ a b : TreePath, TreePath.lt a b = true ↔ a < b
  | [], [] => by simp [TreePath.lt]
  | [], _ :: _ => by simp [TreePath.lt]
  | _ :: _, [] => by simp [TreePath.lt]
  | x :: xs, y :: ys => by
    rw [TreePath.lt, List.cons_lt_cons_iff, ← TreePath.lt_iff_lt xs ys]
    simp

/-- Entries in strictly increasing order of their paths, so each path once. -/
def PathSorted (l : List (TreePath × Job)) : Prop := l.Pairwise fun a b => a.1 < b.1

section Insert

variable {d : TreePath} {j : Job}

lemma insertJob_cons (d' : TreePath) (k : Job) (rest : List (TreePath × Job)) :
    insertJob d j ((d', k) :: rest) =
      if d = d' then (d, j) :: rest
      else if d < d' then (d, j) :: (d', k) :: rest
      else (d', k) :: insertJob d j rest := by
  simp only [insertJob, beq_iff_eq, TreePath.lt_iff_lt]

/-- Inserting a job into sorted entries keeps them sorted, puts the job under its path and
drops an entry already there. -/
theorem insertJob_spec : ∀ {l : List (TreePath × Job)}, PathSorted l →
    PathSorted (insertJob d j l) ∧ ∀ e, e ∈ insertJob d j l ↔ e = (d, j) ∨ (e ∈ l ∧ e.1 ≠ d)
  | [], _ => by simp [insertJob, PathSorted]
  | (d', k) :: rest, hl => by
    rw [PathSorted, List.pairwise_cons] at hl
    obtain ⟨hgt, hrest⟩ := hl
    rw [insertJob_cons]
    by_cases heq : d = d'
    · -- the path is there: its entry is replaced
      subst heq
      rw [if_pos rfl]
      refine ⟨List.pairwise_cons.mpr ⟨hgt, hrest⟩, fun e => ?_⟩
      simp only [List.mem_cons]
      constructor
      · rintro (rfl | he)
        · exact .inl rfl
        · exact .inr ⟨.inr he, (hgt e he).ne'⟩
      · rintro (rfl | ⟨rfl | he, hne⟩)
        · exact .inl rfl
        · exact absurd rfl hne
        · exact .inr he
    rw [if_neg heq]
    by_cases hlt : d < d'
    · -- the path comes before every entry: the job goes first
      rw [if_pos hlt]
      have hall : ∀ e ∈ (d', k) :: rest, d < e.1 := by
        intro e he
        rcases List.mem_cons.mp he with rfl | he
        · exact hlt
        · exact lt_trans hlt (hgt e he)
      refine ⟨List.pairwise_cons.mpr ⟨hall, List.pairwise_cons.mpr ⟨hgt, hrest⟩⟩, fun e => ?_⟩
      constructor
      · intro he
        rcases List.mem_cons.mp he with rfl | he
        · exact .inl rfl
        · exact .inr ⟨he, (hall e he).ne'⟩
      · rintro (rfl | ⟨he, -⟩)
        · exact List.mem_cons_self
        · exact List.mem_cons_of_mem _ he
    · -- the path comes after the first entry: insert into the rest
      rw [if_neg hlt]
      have hgt' : d' < d := lt_of_le_of_ne (not_lt.mp hlt) (Ne.symm heq)
      obtain ⟨ih_sorted, ih_mem⟩ := insertJob_spec hrest
      have hall : ∀ e ∈ insertJob d j rest, d' < e.1 := by
        intro e he
        rcases (ih_mem e).mp he with rfl | ⟨he, -⟩
        · exact hgt'
        · exact hgt e he
      refine ⟨List.pairwise_cons.mpr ⟨hall, ih_sorted⟩, fun e => ?_⟩
      rw [List.mem_cons, ih_mem, List.mem_cons]
      constructor
      · rintro (rfl | rfl | ⟨he, hne⟩)
        · exact .inr ⟨.inl rfl, Ne.symm heq⟩
        · exact .inl rfl
        · exact .inr ⟨.inr he, hne⟩
      · rintro (rfl | ⟨rfl | he, hne⟩)
        · exact .inr (.inl rfl)
        · exact .inl rfl
        · exact .inr (.inr ⟨he, hne⟩)

end Insert

/-! ### The job of a directory -/

/-- What the job of the example in directory `d` holds: the directory, the kind its project
file gives, the words of its labels file, its id, its reference duration, and whether its
labels let it fail. -/
structure Tree.IsJobOf (t : Tree) (root d : TreePath) (j : Job) : Prop where
  path : j.path = d
  kind : t.exampleKind d = some j.kind
  labels : t.labels d = .ok j.labels
  id : j.id = jobId root d
  referenceDuration : j.referenceDuration = t.referenceDuration d
  mayFail : j.mayFail = j.labels.contains mayFailLabel

section Jobs

variable {t : Tree} {root d : TreePath}

lemma job?_eq_some_iff {j : Job} : t.job? root d = .ok (some j) ↔ t.IsJobOf root d j := by
  unfold Tree.job?
  cases hk : t.exampleKind d with
  | none =>
    -- not an example: no job, and no kind a job could have
    constructor
    · intro h
      cases h
    · intro h
      simpa [hk] using h.kind
  | some k =>
    cases hl : t.labels d with
    | error e =>
      constructor
      · intro h
        cases h
      · intro h
        simpa [hl] using h.labels
    | ok ls =>
      constructor
      · intro h
        cases h
        exact ⟨rfl, hk, hl, rfl, rfl, rfl⟩
      · rintro ⟨hpath, hkind, hlabels, hid, href, hmay⟩
        rw [hk, Option.some.injEq] at hkind
        rw [hl, Except.ok.injEq] at hlabels
        cases j
        simp only at hpath hkind hlabels hid href hmay
        subst hpath hkind hlabels hid href hmay
        rfl

lemma job?_eq_error_iff {e : DiscoveryError} :
    t.job? root d = .error e ↔ (t.exampleKind d).isSome = true ∧ t.labels d = .error e := by
  unfold Tree.job?
  cases t.exampleKind d with
  | none => exact ⟨fun h => (by cases h), fun h => (by cases h.1)⟩
  | some k =>
    cases t.labels d with
    | error e' => exact ⟨fun h => (by cases h; exact ⟨rfl, rfl⟩), fun h => (by rw [h.2]; rfl)⟩
    | ok ls => exact ⟨fun h => (by cases h), fun h => (by cases h.2)⟩

lemma job?_of_labels_ok {ls : List String} (hk : (t.exampleKind d).isSome = true)
    (hl : t.labels d = .ok ls) : ∃ j, t.job? root d = .ok (some j) := by
  obtain ⟨k, hk⟩ := Option.isSome_iff_exists.mp hk
  let j : Job :=
    { id := jobId root d, path := d, kind := k, referenceDuration := t.referenceDuration d,
      mayFail := ls.contains mayFailLabel, labels := ls }
  exact ⟨j, job?_eq_some_iff.mpr ⟨rfl, hk, hl, rfl, rfl, rfl⟩⟩

/-- One step of the walk's fold: the job of a directory, if it has one, goes into the entries. -/
def Tree.addJob (t : Tree) (root : TreePath) (acc : List (TreePath × Job)) (dir : TreePath) :
    Except DiscoveryError (List (TreePath × Job)) :=
  t.job? root dir >>= fun o => pure (o.elim acc fun j => insertJob dir j acc)

lemma foldlM_addJob : ∀ (ds : List TreePath) (acc : List (TreePath × Job)), PathSorted acc →
    (∀ d ∈ ds, (t.exampleKind d).isSome = true) →
    ((∃ r, ds.foldlM (t.addJob root) acc = .ok r) ↔ ∀ d ∈ ds, ∃ ls, t.labels d = .ok ls) ∧
    ∀ r, ds.foldlM (t.addJob root) acc = .ok r → PathSorted r ∧
      ∀ e, e ∈ r ↔ (e.1 ∈ ds ∧ t.job? root e.1 = .ok (some e.2)) ∨ (e ∈ acc ∧ e.1 ∉ ds)
  | [], acc, hacc, _ => by
    refine ⟨by simp [pure, Except.pure], fun r hr => ?_⟩
    cases hr
    exact ⟨hacc, by simp⟩
  | d :: ds, acc, hacc, hkind => by
    have hk := hkind d List.mem_cons_self
    have hks : ∀ d' ∈ ds, (t.exampleKind d').isSome = true :=
      fun d' h => hkind d' (List.mem_cons_of_mem _ h)
    rw [List.foldlM_cons, Tree.addJob]
    cases hl : t.labels d with
    | error e =>
      -- an unreadable labels file ends the fold
      rw [job?_eq_error_iff.mpr ⟨hk, hl⟩]
      refine ⟨⟨fun ⟨r, hr⟩ => (by cases hr), fun h => ?_⟩, fun r hr => (by cases hr)⟩
      obtain ⟨ls, hls⟩ := h d List.mem_cons_self
      rw [hl] at hls
      cases hls
    | ok ls =>
      obtain ⟨j, hj⟩ := job?_of_labels_ok hk hl
      rw [hj]
      obtain ⟨hsorted', hmem'⟩ := insertJob_spec (d := d) (j := j) hacc
      obtain ⟨hok, hres⟩ := foldlM_addJob ds (insertJob d j acc) hsorted' hks
      -- the entry the step adds is the one pair of `d` with its job
      have hpair : ∀ e : TreePath × Job,
          e = (d, j) ↔ e.1 = d ∧ t.job? root e.1 = .ok (some e.2) := by
        rintro ⟨d', j'⟩
        constructor
        · rintro ⟨⟩
          exact ⟨rfl, hj⟩
        · rintro ⟨rfl, h⟩
          rw [hj, Except.ok.injEq, Option.some.injEq] at h
          rw [h]
      refine ⟨?_, fun r hr => ?_⟩
      · change (∃ r, ds.foldlM (t.addJob root) (insertJob d j acc) = .ok r) ↔ _
        rw [hok, List.forall_mem_cons]
        exact ⟨fun h => ⟨⟨ls, hl⟩, h⟩, fun h => h.2⟩
      · obtain ⟨hs, hm⟩ := hres r hr
        refine ⟨hs, fun e => ?_⟩
        obtain ⟨d', j'⟩ := e
        rw [hm, hmem', hpair, List.mem_cons]
        -- whether the path is `d`, and whether a later step inserts at it, decide
        by_cases hd : d' = d
        · subst hd
          by_cases hds : d' ∈ ds <;> simp [hds]
        · by_cases hds : d' ∈ ds <;> simp [hds, hd]

end Jobs

/-! ### One selection -/

/-- The directory a selection names: the text after a leading `^`, joined onto the root. -/
def selectionBase (root : TreePath) (s : String) : TreePath :=
  root.join (if s.startsWith "^" then String.ofList (s.toList.drop 1) else s)

/-- What a selection needs to succeed: its directory is there and, unless it removes, every
example the walk reaches below it has a labels file that can be read. -/
def Tree.SelectionOk (t : Tree) (root : TreePath) (s : String) : Prop :=
  t.isDir (selectionBase root s) = true ∧
    (s.startsWith "^" = false → ∀ d, t.reaches (selectionBase root s) d = true →
      (t.exampleKind d).isSome = true → ∃ ls, t.labels d = .ok ls)

/-- Whether directory `d` is selected after selection `s`, from whether it was before: a
removal drops it when it lies below the selection's directory, any other selection adds it when
its walk reaches it and it is an example. -/
def Tree.selects (t : Tree) (root : TreePath) (chosen : Bool) (s : String) (d : TreePath) : Bool :=
  if s.startsWith "^" then chosen && !(selectionBase root s).isPrefixOf d
  else chosen || (t.reaches (selectionBase root s) d && (t.exampleKind d).isSome)

/-- Whether the selections, taken left to right, select directory `d`. -/
def Tree.selected (t : Tree) (root : TreePath) (sels : List String) (d : TreePath) : Bool :=
  sels.foldl (fun chosen s => t.selects root chosen s d) false

section Select

variable {t : Tree} {root : TreePath} {found : List (TreePath × Job)} {s : String}

lemma selectionBase_of_removal (hs : s.startsWith "^" = true) :
    selectionBase root s = root.join (String.ofList (s.toList.drop 1)) := by
  simp [selectionBase, hs]

lemma selectionBase_of_addition (hs : s.startsWith "^" = false) :
    selectionBase root s = root.join s := by
  simp [selectionBase, hs]

lemma select_of_not_dir (hb : t.isDir (selectionBase root s) = false) :
    t.select root found s = .error (.notFound (selectionBase root s)) := by
  unfold Tree.select
  cases hs : s.startsWith "^"
  · rw [selectionBase_of_addition hs] at hb ⊢
    simp only [Bool.false_eq_true, ↓reduceIte, hb]
    rfl
  · rw [selectionBase_of_removal hs] at hb ⊢
    simp only [↓reduceIte, hb]
    rfl

lemma select_of_removal (hb : t.isDir (selectionBase root s) = true)
    (hs : s.startsWith "^" = true) :
    t.select root found s = .ok (found.filter fun e => !(selectionBase root s).isPrefixOf e.1) := by
  unfold Tree.select
  rw [selectionBase_of_removal hs] at hb ⊢
  simp only [hs, ↓reduceIte, hb]
  rfl

lemma select_of_addition (hb : t.isDir (selectionBase root s) = true)
    (hs : s.startsWith "^" = false) :
    t.select root found s =
      (t.exampleDirs (t.dirs.length + 1) (selectionBase root s)).foldlM (t.addJob root) found := by
  unfold Tree.select
  rw [selectionBase_of_addition hs] at hb ⊢
  simp only [hs, Bool.false_eq_true, ↓reduceIte, hb, Bool.not_true]
  congr 1
  funext acc dir
  unfold Tree.addJob
  cases t.job? root dir with
  | error e => rfl
  | ok o => cases o <;> rfl

/-- **One selection.** Applied to entries that are sorted and hold the job of exactly the
directories `P` chose, a selection succeeds exactly when it can, and then holds the job of exactly
the directories it chooses after `P`. -/
theorem select_spec (hn : t.Nested) {P : TreePath → Bool} (hsorted : PathSorted found)
    (hmem : ∀ e, e ∈ found ↔ P e.1 = true ∧ t.job? root e.1 = .ok (some e.2)) :
    ((∃ r, t.select root found s = .ok r) ↔ t.SelectionOk root s) ∧
    ∀ r, t.select root found s = .ok r → PathSorted r ∧
      ∀ e, e ∈ r ↔ t.selects root (P e.1) s e.1 = true ∧ t.job? root e.1 = .ok (some e.2) := by
  cases hb : t.isDir (selectionBase root s) with
  | false =>
    rw [select_of_not_dir hb]
    refine ⟨⟨fun ⟨r, hr⟩ => (by cases hr), fun h => ?_⟩, fun r hr => (by cases hr)⟩
    have hdir := h.1
    rw [hb] at hdir
    cases hdir
  | true =>
    cases hs : s.startsWith "^" with
    | true =>
      -- a removal keeps the entries outside its directory
      rw [select_of_removal hb hs]
      refine ⟨⟨fun _ => ⟨hb, fun h => (by rw [hs] at h; cases h)⟩, fun _ => ⟨_, rfl⟩⟩,
        fun r hr => ?_⟩
      cases hr
      refine ⟨List.Pairwise.sublist List.filter_sublist hsorted, fun e => ?_⟩
      rw [List.mem_filter, hmem]
      simp only [Tree.selects, hs, ↓reduceIte, Bool.and_eq_true]
      exact and_right_comm
    | false =>
      -- any other selection inserts the job of every example its walk reaches
      rw [select_of_addition hb hs]
      have hwalk := fun d => Tree.mem_exampleDirs_iff (d := d) hn hb
      obtain ⟨hok, hres⟩ := @foldlM_addJob t root _ found hsorted
        fun d h => ((hwalk d).mp h).2
      refine ⟨?_, fun r hr => ?_⟩
      · rw [hok, Tree.SelectionOk, hb]
        simp [hwalk, hs]
      · obtain ⟨hs', hm⟩ := hres r hr
        refine ⟨hs', fun e => ?_⟩
        rw [hm, hwalk, hmem]
        simp only [Tree.selects, hs, Bool.false_eq_true, ↓reduceIte, Bool.or_eq_true,
          Bool.and_eq_true]
        -- the walk's examples come in, and an entry it does not reach stays
        constructor
        · rintro (⟨hwalked, hjob⟩ | ⟨⟨hP, hjob⟩, -⟩)
          · exact ⟨.inr hwalked, hjob⟩
          · exact ⟨.inl hP, hjob⟩
        · rintro ⟨hP | hwalked, hjob⟩
          · by_cases hw :
                t.reaches (selectionBase root s) e.1 = true ∧ (t.exampleKind e.1).isSome = true
            · exact .inl ⟨hw, hjob⟩
            · exact .inr ⟨⟨hP, hjob⟩, hw⟩
          · exact .inl ⟨hwalked, hjob⟩

end Select

/-! ### The selections in turn -/

/-- The selections discovery makes: those given, or `.` when none is. -/
def defaultedSelections (sels : List String) : List String :=
  if sels.isEmpty then ["."] else sels

section Fold

variable {t : Tree} {root d : TreePath}

lemma foldlM_select (hn : t.Nested) : ∀ (sels : List String) (found : List (TreePath × Job))
    (P : TreePath → Bool), PathSorted found →
    (∀ e, e ∈ found ↔ P e.1 = true ∧ t.job? root e.1 = .ok (some e.2)) →
    ((∃ r, sels.foldlM (t.select root) found = .ok r) ↔ ∀ s ∈ sels, t.SelectionOk root s) ∧
    ∀ r, sels.foldlM (t.select root) found = .ok r → PathSorted r ∧
      ∀ e, e ∈ r ↔ sels.foldl (fun chosen s => t.selects root chosen s e.1) (P e.1) = true ∧
        t.job? root e.1 = .ok (some e.2)
  | [], found, P, hsorted, hmem => by
    refine ⟨by simp [pure, Except.pure], fun r hr => ?_⟩
    cases hr
    exact ⟨hsorted, hmem⟩
  | s :: sels, found, P, hsorted, hmem => by
    obtain ⟨hok, hres⟩ := select_spec (s := s) hn hsorted hmem
    rw [List.foldlM_cons, List.forall_mem_cons]
    cases hsel : t.select root found s with
    | error e =>
      -- a selection that fails ends the fold
      have hbad : ¬ t.SelectionOk root s := fun h => by
        obtain ⟨r, hr⟩ := hok.mpr h
        rw [hsel] at hr
        cases hr
      exact ⟨⟨fun ⟨r, hr⟩ => (by cases hr), fun h => absurd h.1 hbad⟩, fun r hr => (by cases hr)⟩
    | ok found' =>
      obtain ⟨hsorted', hmem'⟩ := hres found' hsel
      obtain ⟨hok', hres'⟩ :=
        foldlM_select hn sels found' (fun d => t.selects root (P d) s d) hsorted' hmem'
      exact ⟨⟨fun h => ⟨hok.mp ⟨found', hsel⟩, hok'.mp h⟩, fun h => hok'.mpr h.2⟩, hres'⟩

lemma foldl_selects_of_true : ∀ (sels : List String) (c : Bool),
    sels.foldl (fun chosen s => t.selects root chosen s d) c = true →
    c = true ∨ ∃ s ∈ sels, s.startsWith "^" = false ∧ t.reaches (selectionBase root s) d = true ∧
      (t.exampleKind d).isSome = true
  | [], c, h => .inl h
  | s :: sels, c, h => by
    rcases foldl_selects_of_true sels _ h with h | ⟨s', hs', hadd⟩
    · -- chosen after `s`: chosen before it, or added by it
      replace h : t.selects root c s d = true := h
      unfold Tree.selects at h
      cases hs : s.startsWith "^"
      · rw [hs, if_neg Bool.false_ne_true, Bool.or_eq_true, Bool.and_eq_true] at h
        rcases h with h | ⟨hr, hk⟩
        · exact .inl h
        · exact .inr ⟨s, List.mem_cons_self, hs, hr, hk⟩
      · rw [hs, if_pos rfl, Bool.and_eq_true] at h
        exact .inl h.1
    · exact .inr ⟨s', List.mem_cons_of_mem _ hs', hadd⟩

lemma job?_of_selected {sels : List String} (hall : ∀ s ∈ sels, t.SelectionOk root s)
    (h : t.selected root sels d = true) : t.isDir d = true ∧ ∃ j, t.job? root d = .ok (some j) := by
  rcases foldl_selects_of_true sels false h with h | ⟨s, hs, hadd, hr, hk⟩
  · cases h
  · obtain ⟨ls, hl⟩ := (hall s hs).2 hadd d hr hk
    obtain ⟨rel, -, hd, -⟩ := Tree.reaches_iff.mp hr
    exact ⟨hd, job?_of_labels_ok hk hl⟩

lemma discover_eq_ok {sels : List String} {jobs : List Job} :
    t.discover root sels = .ok jobs ↔
      ∃ r, (defaultedSelections sels).foldlM (t.select root) [] = .ok r ∧ jobs = r.map (·.2) := by
  unfold Tree.discover
  change (defaultedSelections sels).foldlM (t.select root) [] >>=
      (fun found => pure (found.map (·.2))) = .ok jobs ↔ _
  cases (defaultedSelections sels).foldlM (t.select root) [] with
  | error e => exact ⟨fun h => (by cases h), fun ⟨r, hr, _⟩ => (by cases hr)⟩
  | ok r =>
    refine ⟨fun h => ⟨r, rfl, (Except.ok.inj h).symm⟩, fun ⟨r', hr, hj⟩ => ?_⟩
    cases hr
    rw [hj]
    rfl

lemma foldlM_select_nil (hn : t.Nested) (sels : List String) :
    ((∃ r, sels.foldlM (t.select root) [] = .ok r) ↔ ∀ s ∈ sels, t.SelectionOk root s) ∧
    ∀ r, sels.foldlM (t.select root) [] = .ok r → PathSorted r ∧
      ∀ e, e ∈ r ↔ t.selected root sels e.1 = true ∧ t.job? root e.1 = .ok (some e.2) :=
  foldlM_select hn sels [] (fun _ => false) List.Pairwise.nil (by simp)

lemma discover_succeeds_iff (hn : t.Nested) {sels : List String} :
    (∃ jobs, t.discover root sels = .ok jobs) ↔
      ∀ s ∈ defaultedSelections sels, t.SelectionOk root s := by
  rw [← (@foldlM_select_nil t root hn _).1]
  constructor
  · rintro ⟨jobs, h⟩
    obtain ⟨r, hr, -⟩ := discover_eq_ok.mp h
    exact ⟨r, hr⟩
  · rintro ⟨r, hr⟩
    exact ⟨_, discover_eq_ok.mpr ⟨r, hr, rfl⟩⟩

lemma discover_found (hn : t.Nested) {sels : List String} {jobs : List Job}
    (h : t.discover root sels = .ok jobs) :
    ∃ r, PathSorted r ∧ (∀ e, e ∈ r ↔ t.selected root (defaultedSelections sels) e.1 = true ∧
        t.job? root e.1 = .ok (some e.2)) ∧ jobs = r.map (·.2) ∧
      ∀ s ∈ defaultedSelections sels, t.SelectionOk root s := by
  obtain ⟨hok, hres⟩ := @foldlM_select_nil t root hn (defaultedSelections sels)
  obtain ⟨r, hr, rfl⟩ := discover_eq_ok.mp h
  obtain ⟨hs, hm⟩ := hres r hr
  exact ⟨r, hs, hm, rfl, hok.mp ⟨r, hr⟩⟩

end Fold

/-! ### What discovery does -/

/-- What discovery promises for a tree, a root and selections. -/
structure DiscoveryLaws (t : Tree) (root : TreePath) (sels : List String) : Prop where
  /-- Discovery succeeds exactly when every selection, `.` for none, can. -/
  succeeds : (∃ jobs, t.discover root sels = .ok jobs) ↔
    ∀ s ∈ defaultedSelections sels, t.SelectionOk root s
  /-- The jobs come in strictly increasing path order, so each directory once. -/
  sorted : ∀ jobs, t.discover root sels = .ok jobs → (jobs.map (·.path)).Pairwise (· < ·)
  /-- No two jobs share an id, when the directories have UTF-8 names. -/
  ids : t.TextNamed → ∀ jobs, t.discover root sels = .ok jobs → (jobs.map (·.id)).Nodup
  /-- The jobs are those of exactly the directories the selections choose, left to right. -/
  selected : ∀ jobs, t.discover root sels = .ok jobs →
    ∀ d, d ∈ jobs.map (·.path) ↔ t.selected root (defaultedSelections sels) d = true
  /-- Each job is the job of its directory. -/
  jobs : ∀ jobs, t.discover root sels = .ok jobs → ∀ j ∈ jobs, t.IsJobOf root j.path j

/-- **Discovery is the selection fold.** In a tree whose directories lie in directories,
discovery succeeds exactly when every selection can; it then gives, in path order, the job of
exactly the example directories that the selections, taken left to right, choose, with distinct
ids when the directories have UTF-8 names. -/
theorem discover_selection_fold (t : Tree) (root : TreePath) (sels : List String)
    (hn : t.Nested) : DiscoveryLaws t root sels := by
  -- the path of each entry is the path of its job
  have hpaths : ∀ r : List (TreePath × Job), (∀ e ∈ r, t.job? root e.1 = .ok (some e.2)) →
      (r.map (·.2)).map (·.path) = r.map (·.1) := fun r hr => by
    rw [List.map_map]
    exact List.map_congr_left fun e he => (job?_eq_some_iff.mp (hr e he)).path
  refine ⟨discover_succeeds_iff hn, ?_, ?_, ?_, ?_⟩
  · intro jobs h
    obtain ⟨r, hs, hm, rfl, -⟩ := discover_found hn h
    rw [hpaths r fun e he => ((hm e).mp he).2]
    exact List.pairwise_map.mpr hs
  · intro hw jobs h
    obtain ⟨r, hs, hm, rfl, hall⟩ := discover_found hn h
    -- entries of distinct paths hold jobs of distinct ids
    refine List.pairwise_map.mpr (List.pairwise_map.mpr (hs.imp_of_mem fun ha hb hab hid => ?_))
    obtain ⟨hsa, hja⟩ := (hm _).mp ha
    obtain ⟨hsb, hjb⟩ := (hm _).mp hb
    rw [(job?_eq_some_iff.mp hja).id, (job?_eq_some_iff.mp hjb).id] at hid
    exact ne_of_lt hab (jobId_inj (Tree.textEntryNames_of_isDir hw (job?_of_selected hall hsa).1)
      (Tree.textEntryNames_of_isDir hw (job?_of_selected hall hsb).1) hid)
  · intro jobs h d
    obtain ⟨r, -, hm, rfl, hall⟩ := discover_found hn h
    rw [hpaths r fun e he => ((hm e).mp he).2, List.mem_map]
    constructor
    · rintro ⟨e, he, rfl⟩
      exact ((hm e).mp he).1
    · intro hd
      obtain ⟨-, j, hj⟩ := job?_of_selected hall hd
      exact ⟨(d, j), (hm (d, j)).mpr ⟨hd, hj⟩, rfl⟩
  · intro jobs h j hj
    obtain ⟨r, -, hm, rfl, -⟩ := discover_found hn h
    obtain ⟨e, he, rfl⟩ := List.mem_map.mp hj
    have hjob := job?_eq_some_iff.mp ((hm e).mp he).2
    rw [hjob.path]
    exact hjob

/-- Two nested examples below the root and one in a reference directory, the inner example
removed again. -/
theorem discover_selection_fold_nested_examples :
    let t : Tree := ⟨[(["ex", "a", "Makefile"], []), (["ex", "a", "b", "MBS.mbsimprj.xml"], []),
      (["ex", "a", "reference", "Makefile"], [])],
      [["ex"], ["ex", "a"], ["ex", "a", "b"], ["ex", "a", "reference"]]⟩
    t.Nested ∧ DiscoveryLaws t ["ex"] ["a", "^a/b"] := by
  intro t
  have hn : t.Nested := by
    unfold Tree.Nested
    decide
  exact ⟨hn, discover_selection_fold t ["ex"] ["a", "^a/b"] hn⟩

/-- Three example directories whose names are not UTF-8: the bytes `FF`, the bytes `FE`, and a
dot followed by `FF`. The hidden one is walked, since its name is not text, and the other two
share the id `U+FFFD`. -/
theorem discover_names_not_text :
    let ff : OsName := .bytes [0xFF] (by decide)
    let fe : OsName := .bytes [0xFE] (by decide)
    let dotFF : OsName := .bytes [0x2E, 0xFF] (by decide)
    let t : Tree := ⟨[(["ex", ff, "Makefile"], []), (["ex", fe, "Makefile"], []),
      (["ex", dotFF, "Makefile"], [])], [["ex"], ["ex", ff], ["ex", fe], ["ex", dotFF]]⟩
    (t.discover ["ex"] []).map (·.map (·.id)) = .ok [".\uFFFD", "\uFFFD", "\uFFFD"] := by
  cbv

end SimRegress
