import Mathlib
import SimRegress.Proofs.Tree.Files
import SimRegress.Proofs.Comparison.Passing
import SimRegress.Proofs.Comparison.Files
import SimRegress.Tree.Load

/-!
Promoting the outputs of an example to its reference data.

Promotion (`Tree.copyToReference`) creates `reference` in the example directory and copies the
dataset files of the directory and its `time.dat` there, each under its own name, over what is
there. The sources lie directly in the directory and the targets one level below, so no copy
reads what another wrote: a run of copies gives each target the bytes of its source and leaves
every other path alone (`Tree.Copied.of_foldlM`). So promotion gives each file it promotes
(`Promoted`) a byte-identical namesake in the reference and changes no other file. It counts
the files it copies, which are distinct unless `time.dat` itself has the suffix: it is then
listed, copied and counted twice.

The reference is not emptied first: a file with the suffix that the directory no longer has
stays there and is loaded with the rest. Where there is none (`NoStaleReference`), the reference
loads as the same store as the directory (`Tree.loadStore_congr`), and a store compared with
itself passes (`compareStores_self`).
-/

namespace SimRegress

/-! ### Loading does not depend on the path -/

lemma Collection.parse_of_origin {text origin origin' : String} {c : Collection}
    (h : Collection.parse text origin = .ok c) : Collection.parse text origin' = .ok c := by
  simp only [Collection.parse] at h ⊢
  cases hr : (readDocument.runOn text).1 with
  | error e => simp [hr] at h
  | ok raws =>
    simp only [hr] at h ⊢
    exact h

/-- The files of a store are in name order and hold well-formed collections. -/
structure Store.WellFormed (S : Store) : Prop where
  sorted : KeysSorted S.files
  tables : ∀ e ∈ S.files, e.2.WellFormed

lemma Store.empty_wellFormed : ({} : Store).WellFormed :=
  ⟨List.Pairwise.nil, fun _ h => absurd h List.not_mem_nil⟩

lemma Store.insert_wellFormed {S : Store} {name : String} {c : Collection} (hS : S.WellFormed)
    (hc : c.WellFormed) : (S.insert name c).WellFormed where
  sorted := keysSorted_insertByName hS.sorted
  tables e he := by
    rcases mem_insertByName he with rfl | he
    · exact hc
    · exact hS.tables e he

namespace Tree

variable {t : Tree}

lemma loadCollection_of_file? {p q : TreePath} {c : Collection} (hpq : t.file? q = t.file? p)
    (h : t.loadCollection p = .ok c) : t.loadCollection q = .ok c := by
  simp only [loadCollection, readText, read, bind, Except.bind, Except.mapError, hpq] at h ⊢
  cases hp : t.file? p with
  | none => simp [hp] at h
  | some b =>
    cases hb : Text.decodeStrict? b with
    | none => simp [hp, hb] at h
    | some text =>
      simp only [hp, hb, pure, Except.pure] at h ⊢
      exact Collection.parse_of_origin h

lemma loadCollection_wellFormed {p : TreePath} {c : Collection} (h : t.loadCollection p = .ok c) :
    c.WellFormed := by
  unfold loadCollection at h
  obtain ⟨text, -, h⟩ := except_bind_eq_ok h
  exact Collection.parse_wellFormed h

/-- Every store loaded from a directory is well-formed. -/
theorem loadStore_wellFormed {d : TreePath} {s : String} {S : Store}
    (h : t.loadStore d s = .ok S) : S.WellFormed := by
  unfold loadStore at h
  refine foldlM_except_invariant (fun acc p acc' hacc hp => ?_) _ {} Store.empty_wellFormed h
  obtain ⟨c, hc, hp⟩ := except_bind_eq_ok hp
  cases hp
  exact Store.insert_wellFormed hacc (loadCollection_wellFormed hc)

lemma foldlM_loadCollection {d d' : TreePath} {names : List OsName} {S₀ S : Store}
    (hbytes : ∀ x ∈ names, t.file? (d' ++ [x]) = t.file? (d ++ [x]))
    (h : (names.map (d ++ [·])).foldlM (fun (s : Store) p => do
      pure (s.insert p.name.lossy (← t.loadCollection p))) S₀ = .ok S) :
    (names.map (d' ++ [·])).foldlM (fun (s : Store) p => do
      pure (s.insert p.name.lossy (← t.loadCollection p))) S₀ = .ok S := by
  induction names generalizing S₀ with
  | nil => exact h
  | cons x names ih =>
    simp only [List.map_cons, List.foldlM_cons, bind, Except.bind] at h ⊢
    cases hx : t.loadCollection (d ++ [x]) with
    | error e => simp [hx] at h
    | ok c =>
      have hx' := loadCollection_of_file? (hbytes x List.mem_cons_self) hx
      simp only [hx, hx', pure, Except.pure, TreePath.name_append] at h ⊢
      exact ih (fun y hy => hbytes y (List.mem_cons_of_mem _ hy)) h

/-- **Two directories whose dataset files have the same names and bytes load as the same
store.** -/
theorem loadStore_congr {d d' : TreePath} {s : String} {S : Store}
    (hd : t.isDir d = true) (hd' : t.isDir d' = true)
    (hnames : t.datasetNames d' s = t.datasetNames d s)
    (hbytes : ∀ x ∈ t.datasetNames d s, t.file? (d' ++ [x]) = t.file? (d ++ [x]))
    (h : t.loadStore d s = .ok S) : t.loadStore d' s = .ok S := by
  simp only [loadStore, filesWithSuffix_of_isDir hd, filesWithSuffix_of_isDir hd', hnames] at h ⊢
  exact foldlM_loadCollection hbytes h

end Tree

/-! ### A store compared with itself -/

lemma compare_self_passed (cmp : Comparator) (file : String) {R : Collection} (hR : R.WellFormed)
    (ht : cmp.tolerance.valid = true) : (cmp.compare file R R).passed = true :=
  (passed_iff_agree cmp file hR hR).mpr ⟨rfl, fun _ a b ha hb => by
    obtain rfl : a = b := Option.some.inj (ha.symm.trans hb)
    exact Dataset.agree_self ht a⟩

/-- **A well-formed store compared with itself passes,** under any cap. -/
theorem compareStores_self {cmp : Comparator} (ht : cmp.tolerance.valid = true) {S : Store}
    (hS : S.WellFormed) : (cmp.compareStores S S).passed = true := by
  have hget : ∀ e ∈ S.files, S.get? e.1 = some e.2 := fun e he => lookup_of_mem hS.sorted he
  have hmarks : ∀ i ∈ storeItems cmp.tolerance S S, i.marks = [] := by
    rw [storeItems_eq]
    intro i hi
    rcases List.mem_append.mp hi with hi | hi
    · -- every file of the store is compared with itself
      obtain ⟨e, he, hi⟩ := List.mem_flatMap.mp hi
      simp only [hget e he] at hi
      exact (compare_passed_iff_marks cmp e.1 e.2 e.2).mp
        (compare_self_passed cmp e.1 (hS.tables e he) ht) i hi
    · -- and no file is missing on either side
      obtain ⟨f, hf, -⟩ := List.mem_map.mp hi
      obtain ⟨f, hf, -⟩ := List.mem_map.mp hf
      obtain ⟨hmem, hnone⟩ := List.mem_filter.mp hf
      obtain ⟨e, he, rfl⟩ := List.mem_map.mp hmem
      simp [hget e he] at hnone
  simp only [Outcome.passed, compareStores_eq_replay, replay_failed, beq_iff_eq, Nat.zero_add,
    List.length_eq_zero_iff, List.flatMap_eq_nil_iff]
  exact hmarks

/-! ### A run of copies into the reference -/

section Copies

variable {dir : TreePath}

lemma source_ne_target (x y : OsName) : dir ++ [x] ≠ dir ++ [.text referenceDirName] ++ [y] := by
  intro h
  have := congrArg List.length h
  simp at this

/-- What a run of copies from `dir` into its reference leaves: the directories as they were,
at the namesake of each source the bytes the source had, and every other path as it was. -/
structure Tree.Copied (t t' : Tree) (dir : TreePath) (srcs : List TreePath) : Prop where
  dirs : t'.dirs = t.dirs
  copy : ∀ x, dir ++ [x] ∈ srcs →
    t'.file? (dir ++ [.text referenceDirName] ++ [x]) = t.file? (dir ++ [x])
  frame : ∀ q, (∀ x, dir ++ [x] ∈ srcs → q ≠ dir ++ [.text referenceDirName] ++ [x]) →
    t'.file? q = t.file? q

lemma Tree.Copied.nil (t : Tree) : t.Copied t dir [] :=
  ⟨rfl, fun _ h => absurd h List.not_mem_nil, fun _ _ => rfl⟩

lemma Tree.Copied.cons {t₁ t₂ t' : Tree} {y : OsName} {srcs : List TreePath}
    (hcopy : t₁.copyFile (dir ++ [y]) (dir ++ [.text referenceDirName] ++ [y]) = .ok t₂)
    (hrest : t₂.Copied t' dir srcs) : t₁.Copied t' dir ((dir ++ [y]) :: srcs) := by
  obtain ⟨b, hb, hw⟩ := Tree.of_copyFile hcopy
  have hfile := Tree.file?_of_write hw
  have hsrc : ∀ x, t₂.file? (dir ++ [x]) = t₁.file? (dir ++ [x]) := fun x => by
    rw [hfile, if_neg (source_ne_target x y)]
  refine ⟨hrest.dirs.trans (Tree.dirs_of_write hw), fun x hx => ?_, fun q hq => ?_⟩
  · by_cases hx' : dir ++ [x] ∈ srcs
    · rw [hrest.copy x hx', hsrc]
    · -- the copy in front is the only one to this target
      obtain rfl : x = y := by
        rcases List.mem_cons.mp hx with h | h
        · exact TreePath.append_singleton_inj h
        · exact absurd h hx'
      have hlast : ∀ z, dir ++ [z] ∈ srcs →
          dir ++ [.text referenceDirName] ++ [x] ≠ dir ++ [.text referenceDirName] ++ [z] := by
        rintro z hz h
        obtain rfl := TreePath.append_singleton_inj h
        exact hx' hz
      rw [hrest.frame _ hlast, hfile, if_pos rfl, hb]
  · rw [hrest.frame q (fun x hx => hq x (List.mem_cons_of_mem _ hx)), hfile,
      if_neg (hq y List.mem_cons_self)]

/-- **A run of copies of files directly in `dir` to their namesakes in its reference** gives each
target the bytes of its source and changes no other path. -/
theorem Tree.Copied.of_foldlM {srcs : List TreePath} {t t' : Tree}
    (hsrc : ∀ p ∈ srcs, ∃ x, p = dir ++ [x])
    (h : srcs.foldlM (fun t src => t.copyFile src (dir ++ [.text referenceDirName] ++ [src.name])) t =
      .ok t') :
    t.Copied t' dir srcs := by
  induction srcs generalizing t with
  | nil =>
    cases h
    exact Tree.Copied.nil _
  | cons src srcs ih =>
    obtain ⟨y, rfl⟩ := hsrc src List.mem_cons_self
    simp only [List.foldlM_cons, TreePath.name_append] at h
    obtain ⟨t₂, hc, h⟩ := except_bind_eq_ok h
    exact Tree.Copied.cons hc (ih (fun p hp => hsrc p (List.mem_cons_of_mem _ hp)) h)

end Copies

/-! ### What promotion copies -/

/-- The files promotion copies: the regular files directly in `dir` whose names are text ending
with the suffix, and `time.dat` when it is a regular file. -/
def Promoted (t : Tree) (dir : TreePath) (s : String) (p : TreePath) : Prop :=
  t.isFile p = true ∧
    ((∃ x : String, p = dir ++ [.text x] ∧ x.endsWith s = true) ∨ p = dir ++ [.text timeFileName])

/-- Every regular file in the reference whose name is text with the suffix has a namesake in the
directory. -/
def NoStaleReference (t : Tree) (dir : TreePath) (s : String) : Prop :=
  ∀ x : String, x.endsWith s = true →
    t.isFile (dir ++ [.text referenceDirName] ++ [.text x]) = true →
    t.isFile (dir ++ [.text x]) = true

section Sources

variable {t t' : Tree} {dir : TreePath} {s : String}

lemma Promoted.in_dir {p : TreePath} (hp : Promoted t dir s p) : ∃ x, p = dir ++ [x] := by
  rcases hp.2 with ⟨x, rfl, -⟩ | rfl
  · exact ⟨.text x, rfl⟩
  · exact ⟨.text timeFileName, rfl⟩

lemma promoted_congr (h : t'.files = t.files) (p : TreePath) :
    Promoted t' dir s p ↔ Promoted t dir s p := by
  simp only [Promoted, Tree.isFile_congr h]

/-- The files promotion copies, in order: the dataset files of the directory, then `time.dat`
when it is a regular file. -/
def promotionSources (t : Tree) (dir : TreePath) (s : String) : List TreePath :=
  t.filesWithSuffix dir s ++
    (if t.isFile (dir ++ [.text timeFileName]) then [dir ++ [.text timeFileName]] else [])

lemma mem_promotionSources (hd : t.isDir dir = true) {p : TreePath} :
    p ∈ promotionSources t dir s ↔ Promoted t dir s p := by
  rw [promotionSources, List.mem_append, Tree.mem_filesWithSuffix]
  constructor
  · rintro (⟨-, x, rfl, hs, hf⟩ | hp)
    · exact ⟨hf, .inl ⟨x, rfl, hs⟩⟩
    · by_cases ht : t.isFile (dir ++ [.text timeFileName]) = true
      · rw [if_pos ht, List.mem_singleton] at hp
        exact ⟨hp ▸ ht, .inr hp⟩
      · rw [if_neg ht] at hp
        exact absurd hp List.not_mem_nil
  · rintro ⟨hf, ⟨x, rfl, hs⟩ | rfl⟩
    · exact .inl ⟨hd, x, rfl, hs, hf⟩
    · exact .inr (by simp [hf])

lemma nodup_promotionSources (htime : timeFileName.endsWith s = false) :
    (promotionSources t dir s).Nodup := by
  refine List.nodup_append.mpr ⟨t.nodup_filesWithSuffix dir s, ?_, fun a ha b hb => ?_⟩
  · split <;> simp
  · obtain ⟨-, x, rfl, hs, -⟩ := Tree.mem_filesWithSuffix.mp ha
    split at hb
    · rw [List.mem_singleton.mp hb]
      intro h
      obtain rfl := OsName.text.inj (TreePath.append_singleton_inj h)
      simp [hs] at htime
    · exact absurd hb List.not_mem_nil

lemma Tree.of_copyToReference (hn : t.Nested) {n : Nat}
    (h : t.copyToReference dir s = .ok (t', n)) :
    ∃ t₁ : Tree, t₁.files = t.files ∧ t₁.isDir dir = true ∧
      t₁.isDir (dir ++ [.text referenceDirName]) = true ∧
      t₁.Copied t' dir (promotionSources t₁ dir s) ∧ n = (promotionSources t₁ dir s).length := by
  obtain ⟨t₁, hc, h⟩ := except_bind_eq_ok h
  have hc := except_mapError_eq_ok hc
  obtain ⟨t₂, hf, h⟩ := except_bind_eq_ok h
  cases h
  have hd : t₁.isDir dir = true := by
    simpa using Tree.isDir_parent_of_createDirAll hn hc
  exact ⟨t₁, Tree.files_of_createDirAll hc, hd, Tree.isDir_of_createDirAll hc rfl,
    Tree.Copied.of_foldlM (fun p hp => ((mem_promotionSources hd).mp hp).in_dir) hf, rfl⟩

end Sources

/-! ### Promotion -/

section Promotion

variable {t t' : Tree} {dir : TreePath} {s : String}

lemma isDir_congr (h : t'.dirs = t.dirs) (p : TreePath) : t'.isDir p = t.isDir p := by
  simp only [Tree.isDir, h]

lemma isFile_reference_iff {t₁ : Tree} (hfiles : t₁.files = t.files) (hd : t₁.isDir dir = true)
    (hc : t₁.Copied t' dir (promotionSources t₁ dir s)) (hstale : NoStaleReference t dir s)
    {x : String} (hs : x.endsWith s = true) :
    t'.isFile (dir ++ [.text referenceDirName] ++ [.text x]) = true ↔
      t'.isFile (dir ++ [.text x]) = true := by
  have hsame : t'.file? (dir ++ [.text x]) = t.file? (dir ++ [.text x]) :=
    (hc.frame _ fun y _ => source_ne_target _ y).trans (Tree.file?_congr hfiles _)
  simp only [Tree.isFile, hsame]
  by_cases hx : dir ++ [.text x] ∈ promotionSources t₁ dir s
  · rw [hc.copy _ hx, Tree.file?_congr hfiles]
  · -- neither a source nor copied: the reference file is as it was, and so none
    have hnot : ¬ (t.isFile (dir ++ [.text x]) = true) := fun hf =>
      hx ((mem_promotionSources hd).mpr
        ⟨by rwa [Tree.isFile_congr hfiles], .inl ⟨x, rfl, hs⟩⟩)
    have hkeep : t'.file? (dir ++ [.text referenceDirName] ++ [.text x]) =
        t.file? (dir ++ [.text referenceDirName] ++ [.text x]) := by
      refine (hc.frame _ fun y hy h => ?_).trans (Tree.file?_congr hfiles _)
      obtain rfl := TreePath.append_singleton_inj h
      exact hx hy
    rw [hkeep]
    exact ⟨fun h => absurd (hstale x hs h) hnot, fun h => absurd h hnot⟩

/-- **Promoting outputs to the reference.** In a tree whose directories lie in directories, when
promotion succeeds and counts `n` files:
* unless `time.dat` has the suffix, `n` is the number of distinct files it promotes: the regular
  files directly in the directory whose names end with the suffix, and `time.dat` if it is a
  regular file;
* each of them has a byte-identical namesake in the reference;
* no other file changes;
* when the reference held no file with the suffix that the directory lacks, it now loads as the
  same store as the directory, and that store compared with itself passes. -/
theorem promotion_law {n : Nat} (hn : t.Nested) (h : t.copyToReference dir s = .ok (t', n)) :
    (timeFileName.endsWith s = false →
        ∃ L : List TreePath, L.Nodup ∧ (∀ p, p ∈ L ↔ Promoted t dir s p) ∧ n = L.length) ∧
      (∀ p, Promoted t dir s p →
        t'.file? (dir ++ [.text referenceDirName] ++ [p.name]) = t.file? p) ∧
      (∀ q, (∀ p, Promoted t dir s p → q ≠ dir ++ [.text referenceDirName] ++ [p.name]) →
        t'.file? q = t.file? q) ∧
      (NoStaleReference t dir s → ∀ S, t'.loadStore dir s = .ok S →
        t'.loadStore (dir ++ [.text referenceDirName]) s = .ok S ∧
          ∀ cmp : Comparator, cmp.tolerance.valid = true → (cmp.compareStores S S).passed = true) := by
  obtain ⟨t₁, hfiles, hd, href, hc, rfl⟩ := Tree.of_copyToReference hn h
  have hmem : ∀ p, p ∈ promotionSources t₁ dir s ↔ Promoted t dir s p := fun p =>
    (mem_promotionSources hd).trans (promoted_congr hfiles p)
  have hbytes : ∀ p, t₁.file? p = t.file? p := Tree.file?_congr hfiles
  refine ⟨fun htime => ⟨_, nodup_promotionSources htime, hmem, rfl⟩, fun p hp => ?_,
    fun q hq => ?_, fun hstale S hS => ?_⟩
  · obtain ⟨x, rfl⟩ := hp.in_dir
    rw [TreePath.name_append, hc.copy x ((hmem _).mpr hp), hbytes]
  · refine (hc.frame q fun x hx => ?_).trans (hbytes q)
    simpa using hq _ ((hmem _).mp hx)
  · -- the reference lists the same names as the directory, with the same bytes
    have hd' : t'.isDir dir = true := by rw [isDir_congr hc.dirs]; exact hd
    have href' : t'.isDir (dir ++ [.text referenceDirName]) = true := by
      rw [isDir_congr hc.dirs]; exact href
    have hnames : t'.datasetNames (dir ++ [.text referenceDirName]) s = t'.datasetNames dir s :=
      Tree.datasetNames_congr fun x hs => isFile_reference_iff hfiles hd hc hstale hs
    have hsame : ∀ x ∈ t'.datasetNames dir s,
        t'.file? (dir ++ [.text referenceDirName] ++ [x]) = t'.file? (dir ++ [x]) := by
      intro x hx
      obtain ⟨⟨n, rfl, hs⟩, hf⟩ := Tree.mem_datasetNames.mp hx
      have hsrc : dir ++ [.text n] ∈ promotionSources t₁ dir s := by
        refine (hmem _).mpr ⟨?_, .inl ⟨n, rfl, hs⟩⟩
        rwa [Tree.isFile, ← hbytes, ← hc.frame _ fun y _ => source_ne_target _ y]
      rw [hc.copy _ hsrc, hc.frame _ fun y _ => source_ne_target _ y]
    exact ⟨Tree.loadStore_congr hd' href' hnames hsame hS,
      fun cmp ht => compareStores_self ht (Tree.loadStore_wellFormed hS)⟩

/-- A dataset file promoted over an older reference copy of it. -/
theorem promotion_law_one_file :
    let ex : TreePath := ["ex"]
    let t : Tree := ⟨[(["ex", "a.json"], [1]), (["ex", "reference", "a.json"], [3])],
      [["ex"], ["ex", "reference"]]⟩
    let t' : Tree := ⟨[(["ex", "a.json"], [1]), (["ex", "reference", "a.json"], [1])],
      [["ex"], ["ex", "reference"]]⟩
    t.Nested ∧ t.copyToReference ex ".json" = .ok (t', 1) ∧
      ((timeFileName.endsWith ".json" = false →
          ∃ L : List TreePath, L.Nodup ∧ (∀ p, p ∈ L ↔ Promoted t ex ".json" p) ∧
            1 = L.length) ∧
        (∀ p, Promoted t ex ".json" p →
          t'.file? (ex ++ [.text referenceDirName] ++ [p.name]) = t.file? p) ∧
        (∀ q, (∀ p, Promoted t ex ".json" p → q ≠ ex ++ [.text referenceDirName] ++ [p.name]) →
          t'.file? q = t.file? q) ∧
        (NoStaleReference t ex ".json" → ∀ S, t'.loadStore ex ".json" = .ok S →
          t'.loadStore (ex ++ [.text referenceDirName]) ".json" = .ok S ∧
            ∀ cmp : Comparator, cmp.tolerance.valid = true →
              (cmp.compareStores S S).passed = true)) := by
  intro ex t t'
  have hn : t.Nested := by
    intro d hd
    simp only [t, List.mem_cons, List.not_mem_nil, or_false] at hd
    rcases hd with rfl | rfl <;> decide
  have hdir : t.createDirAll (ex ++ [.text referenceDirName]) = .ok t := by cbv
  -- text names are sorted by simp and decide: cbv does not get through their comparison
  have hlist : t.children ex = [.text "a.json", .text "reference"] := by
    simp [t, ex, Tree.children, TreePath.name, List.mergeSort, List.cons_merge_cons]
    decide
  have h : t.copyToReference ex ".json" = .ok (t', 1) := by
    simp only [Tree.copyToReference, hdir, Except.mapError, bind, Except.bind,
      Tree.filesWithSuffix, hlist]
    cbv
  exact ⟨hn, h, promotion_law hn h⟩

/-- Promotion counts a `time.dat` with the suffix twice, and keeps a reference file that the
directory lacks, which then fails the reference's store while the directory's loads empty. -/
theorem promotion_double_counts_and_keeps_stale_files :
    let timed : Tree := ⟨[(["ex", "time.dat"], [0x31])], [["ex"]]⟩
    let stale : Tree := ⟨[(["ex", "reference", "old.dataset.json"], [0xff])],
      [["ex"], ["ex", "reference"]]⟩
    ((∀ p, Promoted timed ["ex"] ".dat" p ↔ p = [.text "ex", .text "time.dat"]) ∧
        timed.copyToReference ["ex"] ".dat" =
          .ok (⟨[(["ex", "time.dat"], [0x31]), (["ex", "reference", "time.dat"], [0x31])],
            [["ex"], ["ex", "reference"]]⟩, 2)) ∧
      stale.copyToReference ["ex"] ".dataset.json" = .ok (stale, 0) ∧
      stale.loadStore ["ex"] ".dataset.json" = .ok {} ∧
      stale.loadStore ["ex", "reference"] ".dataset.json" =
        .error (.io "/ex/reference/old.dataset.json" IoFault.invalidText.message) := by
  intro timed stale
  have hfile : ∀ p, timed.isFile p = true ↔ p = [.text "ex", .text "time.dat"] := fun p => by
    simp only [Tree.isFile_iff, timed, List.mem_cons, List.not_mem_nil, or_false, exists_eq_left]
    exact eq_comm
  have hdir : timed.createDirAll ((["ex"] : TreePath) ++ [.text referenceDirName]) =
      .ok ⟨[(["ex", "time.dat"], [0x31])], [["ex"], ["ex", "reference"]]⟩ := by cbv
  -- the two entries are sorted by simp and decide: cbv does not get through this comparison
  have hlist : (Tree.mk [(["ex", "time.dat"], [0x31])] [["ex"], ["ex", "reference"]]).children
      ["ex"] = [.text "reference", .text "time.dat"] := by
    simp [Tree.children, TreePath.name, List.mergeSort, List.cons_merge_cons]
    decide
  refine ⟨⟨fun p => ⟨fun hp => (hfile p).mp hp.1, ?_⟩, ?_⟩, by cbv, by cbv, by cbv⟩
  · rintro rfl
    exact ⟨(hfile _).mpr rfl, .inr rfl⟩
  · simp only [Tree.copyToReference, hdir, Except.mapError, bind, Except.bind,
      Tree.filesWithSuffix, hlist]
    cbv

end Promotion

end SimRegress
