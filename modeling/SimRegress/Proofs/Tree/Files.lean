import Mathlib
import SimRegress.Tree.Outputs
import SimRegress.Proofs.Traversal
import SimRegress.Proofs.Tree.Names

/-!
What the operations on a tree do to its files and directories.

A write replaces the file at one path and leaves every other path as it was
(`Tree.file?_of_write`); creating a directory leaves the files alone and makes a directory of
it (`Tree.isDir_of_createDirAll`) and, in a tree whose directories lie in directories, of the
one above it (`Tree.isDir_parent_of_createDirAll`).

The entries of a directory are the last components of the files and directories directly in
it (`Tree.mem_children`), each once and in the order of their bytes (`Tree.children_sorted`).
So the dataset files of a directory are the directory followed by each of `Tree.datasetNames`,
the names of its entries that are text with the suffix and name regular files
(`Tree.filesWithSuffix_of_isDir`): two directories whose regular files with the suffix have the
same names list them alike (`Tree.datasetNames_congr`).
-/

namespace SimRegress

/-! ### Lists kept free of repeats -/

section Unique

variable {α : Type} [BEq α] [LawfulBEq α]

lemma mem_foldl_appendNew {l acc : List α} {x : α} :
    x ∈ l.foldl (fun acc n => if acc.contains n then acc else acc ++ [n]) acc ↔
      x ∈ acc ∨ x ∈ l := by
  induction l generalizing acc with
  | nil => simp
  | cons y l ih =>
    rw [List.foldl_cons, ih]
    by_cases hy : acc.contains y = true
    · have hmem : y ∈ acc := List.contains_iff_mem.mp hy
      simp only [hy, if_true, List.mem_cons]
      constructor
      · rintro (h | h)
        · exact .inl h
        · exact .inr (.inr h)
      · rintro (h | rfl | h)
        · exact .inl h
        · exact .inl hmem
        · exact .inr h
    · simp only [hy, if_false, Bool.false_eq_true, List.mem_append, List.mem_cons,
        List.not_mem_nil, or_false]
      exact or_assoc

lemma nodup_foldl_appendNew {l acc : List α} (h : acc.Nodup) :
    (l.foldl (fun acc n => if acc.contains n then acc else acc ++ [n]) acc).Nodup := by
  induction l generalizing acc with
  | nil => exact h
  | cons y l ih =>
    rw [List.foldl_cons]
    apply ih
    by_cases hy : acc.contains y = true
    · rw [if_pos hy]
      exact h
    · have hnot : y ∉ acc := fun hm => hy (List.contains_iff_mem.mpr hm)
      rw [if_neg hy]
      refine List.nodup_append.mpr ⟨h, List.nodup_singleton y, fun a ha b hb => ?_⟩
      rw [List.mem_singleton.mp hb]
      exact fun hay => hnot (hay ▸ ha)

end Unique

/-! ### Paths -/

@[simp] lemma TreePath.name_append (d : TreePath) (x : OsName) : (d ++ [x]).name = x :=
  List.getLastD_concat

@[simp] lemma TreePath.parent_append (d : TreePath) (x : OsName) : (d ++ [x]).parent = d :=
  List.dropLast_concat

lemma TreePath.append_singleton_inj {d : TreePath} {x y : OsName} (h : d ++ [x] = d ++ [y]) :
    x = y :=
  List.singleton_inj.mp (List.append_cancel_left h)

lemma below_eq_some_iff {d p : TreePath} {x : OsName} :
    (if (p.length == d.length + 1 && d.isPrefixOf p) = true then some p.name else none) =
        some x ↔ p = d ++ [x] := by
  constructor
  · intro h
    split at h
    · rename_i hp
      simp only [Bool.and_eq_true, beq_iff_eq, List.isPrefixOf_iff_prefix] at hp
      obtain ⟨hlen, r, rfl⟩ := hp
      obtain ⟨y, rfl⟩ : ∃ y, r = [y] := by
        simp only [List.length_append] at hlen
        exact List.length_eq_one_iff.mp (by omega)
      simp only [TreePath.name_append, Option.some.injEq] at h
      rw [h]
    · cases h
  · rintro rfl
    simp

lemma mem_filterMap_below {d : TreePath} {x : OsName} {β : Type} {l : List β}
    {f : β → TreePath} :
    x ∈ l.filterMap (fun e =>
        if ((f e).length == d.length + 1 && d.isPrefixOf (f e)) = true then some (f e).name
        else none) ↔ ∃ e ∈ l, f e = d ++ [x] := by
  simp only [List.mem_filterMap, below_eq_some_iff]

lemma self_mem_ancestry {p : TreePath} (hp : p ≠ []) : p ∈ ancestry p := by
  refine List.mem_map.mpr ⟨p.length - 1, List.mem_range.mpr ?_, ?_⟩
  · have := List.length_pos_iff.mpr hp
    omega
  · have := List.length_pos_iff.mpr hp
    rw [Nat.sub_add_cancel this, List.take_length]

lemma parent_mem_ancestry {p : TreePath} (hp : p.parent ≠ []) : p.parent ∈ ancestry p := by
  have hlen : p.parent.length = p.length - 1 := List.length_dropLast
  have hpos : 0 < p.parent.length := List.length_pos_iff.mpr hp
  refine List.mem_map.mpr ⟨p.length - 2, List.mem_range.mpr (by omega), ?_⟩
  rw [show p.length - 2 + 1 = p.length - 1 by omega]
  exact (List.dropLast_eq_take).symm

lemma pairwise_lt_mergeSort {α : Type} [LinearOrder α] {l : List α} (h : l.Nodup) :
    (l.mergeSort fun a b => decide (a ≤ b)).Pairwise (· < ·) := by
  have hle : (l.mergeSort fun a b => decide (a ≤ b)).Pairwise fun a b => decide (a ≤ b) = true :=
    List.pairwise_mergeSort
      (fun a b c hab hbc => by simpa using le_trans (of_decide_eq_true hab) (of_decide_eq_true hbc))
      (fun a b => by simpa using le_total a b) l
  have hnodup := (List.mergeSort_perm l fun a b => decide (a ≤ b)).nodup_iff.mpr h
  refine (hle.and hnodup).imp fun ⟨hab, hne⟩ => ?_
  exact lt_of_le_of_ne (of_decide_eq_true hab) hne

/-! ### Files and directories -/

namespace Tree

variable {t t' : Tree}

lemma isFile_iff {p : TreePath} : t.isFile p = true ↔ ∃ e ∈ t.files, e.1 = p := by
  rw [isFile, file?, Option.isSome_iff_ne_none, Ne, List.lookup_eq_none_iff]
  simp only [bne_iff_ne, ne_eq, not_forall, not_not, exists_prop]
  exact exists_congr fun e => and_congr_right fun _ => eq_comm

lemma file?_congr (h : t'.files = t.files) (p : TreePath) : t'.file? p = t.file? p := by
  simp only [file?, h]

lemma isFile_congr (h : t'.files = t.files) (p : TreePath) : t'.isFile p = t.isFile p := by
  simp only [isFile, file?_congr h]

/-- Every directory of the tree lies in a directory, as on a file system. -/
def Nested (t : Tree) : Prop := ∀ d ∈ t.dirs, t.isDir d.parent = true

lemma lookup_filter_ne {l : List (TreePath × List UInt8)} {p q : TreePath} :
    (l.filter (·.1 != p)).lookup q = if q = p then none else l.lookup q := by
  by_cases hq : q = p
  · subst hq
    rw [if_pos rfl, List.lookup_eq_none_iff]
    intro e he
    have := (List.mem_filter.mp he).2
    simp only [bne_iff_ne, ne_eq] at this ⊢
    exact fun h => this h.symm
  · rw [if_neg hq]
    induction l with
    | nil => rfl
    | cons e l ih =>
      obtain ⟨k, v⟩ := e
      by_cases hk : k = p
      · subst hk
        rw [List.filter_cons_of_neg (by simp), ih, List.lookup_cons, beq_false_of_ne hq]
      · rw [List.filter_cons_of_pos (by simpa using hk), List.lookup_cons, List.lookup_cons, ih]

lemma lookup_replace {l : List (TreePath × List UInt8)} {p q : TreePath} {b : List UInt8} :
    (l.filter (·.1 != p) ++ [(p, b)]).lookup q = if q = p then some b else l.lookup q := by
  -- the old file at `p` is dropped, so the new one is what `p` finds
  rw [List.lookup_append, lookup_filter_ne]
  by_cases hq : q = p
  · simp [hq]
  · have hp : ([(p, b)] : List (TreePath × List UInt8)).lookup q = none := by simp [hq]
    simp only [hq, if_false]
    cases l.lookup q <;> simp [hp]

lemma file?_of_write {p : TreePath} {b : List UInt8} (h : t.write p b = .ok t') (q : TreePath) :
    t'.file? q = if q = p then some b else t.file? q := by
  simp only [write] at h
  split at h
  · cases h
  split at h
  · cases h
  split at h
  · cases h
  cases h
  exact lookup_replace

lemma dirs_of_write {p : TreePath} {b : List UInt8} (h : t.write p b = .ok t') :
    t'.dirs = t.dirs := by
  simp only [write] at h
  split at h
  · cases h
  split at h
  · cases h
  split at h
  · cases h
  cases h
  rfl

lemma read_eq_ok {p : TreePath} {b : List UInt8} : t.read p = .ok b ↔ t.file? p = some b := by
  unfold read
  cases t.file? p with
  | none => simp
  | some b' => simp

lemma of_copyFile {src dst : TreePath} (h : t.copyFile src dst = .ok t') :
    ∃ b, t.file? src = some b ∧ t.write dst b = .ok t' := by
  unfold copyFile at h
  obtain ⟨b, hr, h⟩ := except_bind_eq_ok h
  exact ⟨b, read_eq_ok.mp (except_mapError_eq_ok hr), except_mapError_eq_ok h⟩

lemma mem_dirs_addDirs {ds : List TreePath} {d : TreePath} :
    d ∈ (t.addDirs ds).dirs ↔ d ∈ t.dirs ∨ d ∈ ds :=
  mem_foldl_appendNew

lemma files_of_createDirAll {p : TreePath} (h : t.createDirAll p = .ok t') : t'.files = t.files := by
  simp only [createDirAll] at h
  split at h
  · cases h; rfl
  split at h
  · cases h
  split at h
  · cases h
  cases h
  rfl

lemma isDir_of_createDirAll {p q : TreePath} (h : t.createDirAll p = .ok t') (hq : q = p) :
    t'.isDir q = true := by
  subst hq
  simp only [createDirAll] at h
  split at h
  · cases h; assumption
  split at h
  · cases h
  split at h
  · cases h
  cases h
  by_cases hp : q = []
  · simp [isDir, hp]
  · simp only [isDir, Bool.or_eq_true, List.contains_iff_mem, mem_dirs_addDirs]
    exact .inr (.inr (self_mem_ancestry hp))

lemma isDir_parent_of_createDirAll {p : TreePath} (hn : t.Nested) (h : t.createDirAll p = .ok t') :
    t'.isDir p.parent = true := by
  by_cases hp : p.parent = []
  · simp [isDir, hp]
  simp only [createDirAll] at h
  split at h
  · rename_i hdir
    cases h
    have hne : p ≠ [] := fun h => hp (by simp [h, TreePath.parent])
    simp only [isDir, Bool.or_eq_true, List.isEmpty_iff, hne, false_or,
      List.contains_iff_mem] at hdir
    exact hn p hdir
  split at h
  · cases h
  split at h
  · cases h
  cases h
  simp only [isDir, Bool.or_eq_true, List.contains_iff_mem, mem_dirs_addDirs]
  exact .inr (.inr (parent_mem_ancestry hp))

/-! ### The entries of a directory -/

/-- An entry of a directory is the last component of a file or a directory directly in it. -/
theorem mem_children {d : TreePath} {x : OsName} :
    x ∈ t.children d ↔ t.isFile (d ++ [x]) = true ∨ d ++ [x] ∈ t.dirs := by
  simp only [children, List.mem_mergeSort, mem_foldl_appendNew, List.not_mem_nil, false_or,
    List.mem_append, mem_filterMap_below, isFile_iff]
  simp only [exists_eq_right]

/-- The entries of a directory come in strictly increasing order, so each once. -/
theorem children_sorted (t : Tree) (d : TreePath) : (t.children d).Pairwise (· < ·) :=
  pairwise_lt_mergeSort (nodup_foldl_appendNew List.nodup_nil)

/-- The names of the dataset files of a directory: its entries that are text with the suffix
and are regular files, in order. -/
def datasetNames (t : Tree) (d : TreePath) (s : String) : List OsName :=
  (t.children d).filter fun x => x.toStr?.any (·.endsWith s) && t.isFile (d ++ [x])

lemma mem_datasetNames {d : TreePath} {s : String} {x : OsName} :
    x ∈ t.datasetNames d s ↔
      (∃ n, x = .text n ∧ n.endsWith s = true) ∧ t.isFile (d ++ [x]) = true := by
  simp only [datasetNames, List.mem_filter, Bool.and_eq_true, mem_children,
    OsName.toStr?_any_iff]
  constructor
  · exact fun h => h.2
  · exact fun h => ⟨.inl h.2, h⟩

lemma datasetNames_sorted (t : Tree) (d : TreePath) (s : String) :
    (t.datasetNames d s).Pairwise (· < ·) :=
  (t.children_sorted d).filter _

/-- Two directories whose regular files with the suffix have the same names have the same
dataset names. -/
theorem datasetNames_congr {t' : Tree} {d d' : TreePath} {s : String}
    (h : ∀ x : String, x.endsWith s = true →
      (t.isFile (d ++ [.text x]) = true ↔ t'.isFile (d' ++ [.text x]) = true)) :
    t.datasetNames d s = t'.datasetNames d' s :=
  List.Pairwise.eq_of_mem_iff (t.datasetNames_sorted d s) (t'.datasetNames_sorted d' s) fun x => by
    rw [mem_datasetNames, mem_datasetNames]
    constructor
    · rintro ⟨⟨n, rfl, hn⟩, hf⟩
      exact ⟨⟨n, rfl, hn⟩, (h n hn).mp hf⟩
    · rintro ⟨⟨n, rfl, hn⟩, hf⟩
      exact ⟨⟨n, rfl, hn⟩, (h n hn).mpr hf⟩

/-- The dataset files of a directory are the directory followed by each of its dataset names. -/
theorem filesWithSuffix_of_isDir {d : TreePath} {s : String} (hd : t.isDir d = true) :
    t.filesWithSuffix d s = (t.datasetNames d s).map (d ++ [·]) := by
  simp only [filesWithSuffix, hd, if_true, datasetNames, List.filter_map, List.filter_filter]
  congr 1
  apply List.filter_congr
  intro x _
  simp only [Function.comp_apply, Bool.and_comm]

/-- The dataset files of a directory are the regular files directly in it whose names are text
ending with the suffix. -/
theorem mem_filesWithSuffix {d p : TreePath} {s : String} :
    p ∈ t.filesWithSuffix d s ↔
      t.isDir d = true ∧ ∃ x : String, p = d ++ [.text x] ∧ x.endsWith s = true ∧
        t.isFile p = true := by
  by_cases hd : t.isDir d = true
  · rw [filesWithSuffix_of_isDir hd, List.mem_map]
    simp only [mem_datasetNames, hd, true_and]
    constructor
    · rintro ⟨x, ⟨⟨n, rfl, hs⟩, hf⟩, rfl⟩
      exact ⟨n, rfl, hs, hf⟩
    · rintro ⟨n, rfl, hs, hf⟩
      exact ⟨.text n, ⟨⟨n, rfl, hs⟩, hf⟩, rfl⟩
  · simp [filesWithSuffix, hd]

/-- Each dataset file is listed once. -/
theorem nodup_filesWithSuffix (t : Tree) (d : TreePath) (s : String) :
    (t.filesWithSuffix d s).Nodup := by
  by_cases hd : t.isDir d = true
  · rw [filesWithSuffix_of_isDir hd]
    exact (t.datasetNames_sorted d s).nodup.map
      fun _ _ => TreePath.append_singleton_inj
  · simp [filesWithSuffix, hd]

end Tree

end SimRegress
