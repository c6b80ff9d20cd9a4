import Mathlib
import SimRegress.Job.Discovery
import SimRegress.Proofs.Tree.Files

/-!
# The walk below a selected directory

`Tree.exampleDirs` walks down from a directory with a level count as fuel, entering the
children that are directories and whose names are not skipped. A path is entered through a list
of names (`Tree.enters`); in a tree whose directories lie in directories (`Tree.Nested`) that
happens exactly when the path is a directory and none of the names is skipped
(`Tree.enters_iff`). No walk enters more directories than the tree has, so the fuel the
discovery gives it, one more than the number of directories, never runs out: the walk lists
exactly the example directories the base reaches (`Tree.mem_exampleDirs_iff`).
-/

namespace SimRegress

namespace Tree

variable {t : Tree}

/-- Whether the walk from `dir` enters the directories named by `rel` one after another: each a
directory whose name is not skipped. -/
def enters (t : Tree) (dir : TreePath) : TreePath → Bool
  | [] => true
  | n :: rest => !skippedDir n && t.isDir (dir ++ [n]) && t.enters (dir ++ [n]) rest

/-- Whether a directory lies below `base`, itself included, with no skipped name on the way
down from `base`. -/
def reaches (t : Tree) (base d : TreePath) : Bool :=
  base.isPrefixOf d && t.isDir d && (d.drop base.length).all fun n => !skippedDir n

lemma reaches_iff {base d : TreePath} :
    t.reaches base d = true ↔
      ∃ rel, d = base ++ rel ∧ t.isDir d = true ∧ ∀ n ∈ rel, skippedDir n = false := by
  simp only [reaches, Bool.and_eq_true, List.isPrefixOf_iff_prefix, List.all_eq_true,
    Bool.not_eq_true']
  constructor
  · rintro ⟨⟨⟨rel, rfl⟩, hd⟩, hskip⟩
    exact ⟨rel, rfl, hd, by simpa using hskip⟩
  · rintro ⟨rel, rfl, hd, hskip⟩
    exact ⟨⟨List.prefix_append base rel, hd⟩, by simpa using hskip⟩

lemma mem_dirs_of_isDir {dir : TreePath} {n : OsName} (h : t.isDir (dir ++ [n]) = true) :
    dir ++ [n] ∈ t.dirs := by
  simpa [isDir] using h

/-! ### The walk with a level count -/

/-- The walk from `dir` with `fuel` levels lists the example directories reached from `dir`
through fewer than `fuel` entered directories. -/
theorem mem_exampleDirs (fuel : Nat) : ∀ {dir d : TreePath},
    d ∈ t.exampleDirs fuel dir ↔ ∃ rel, d = dir ++ rel ∧ t.enters dir rel = true ∧
      (t.exampleKind d).isSome = true ∧ rel.length < fuel := by
  induction fuel with
  | zero => simp [exampleDirs]
  | succ fuel ih =>
    intro dir d
    simp only [exampleDirs, List.mem_append, List.mem_flatMap, List.mem_filter, List.mem_map, ih]
    constructor
    · rintro (hown | ⟨c, ⟨⟨n, ⟨-, hn⟩, rfl⟩, hc⟩, rel, rfl, hrel, hkind, hlen⟩)
      · -- the directory itself, listed when it is an example
        by_cases hk : (t.exampleKind dir).isSome = true
        · rw [if_pos hk, List.mem_singleton] at hown
          exact ⟨[], by simp [hown], rfl, hown ▸ hk, Nat.zero_lt_succ _⟩
        · rw [if_neg hk] at hown
          cases hown
      · refine ⟨n :: rel, by simp, ?_, hkind, by simpa using hlen⟩
        simp [enters, hn, hc, hrel]
    · rintro ⟨rel, rfl, hrel, hkind, hlen⟩
      cases rel with
      | nil =>
        left
        rw [List.append_nil] at hkind ⊢
        rw [if_pos hkind]
        exact List.mem_singleton_self _
      | cons n rel =>
        simp only [enters, Bool.and_eq_true, Bool.not_eq_true'] at hrel
        obtain ⟨⟨hn, hc⟩, hrel⟩ := hrel
        right
        refine ⟨dir ++ [n], ⟨⟨n, ⟨?_, by simpa using hn⟩, rfl⟩, hc⟩, rel, by simp, hrel,
          by simpa using hkind, by simpa using hlen⟩
        exact mem_children.mpr (.inr (mem_dirs_of_isDir hc))

lemma isDir_of_enters : ∀ {dir rel : TreePath}, t.enters dir rel = true →
    ∀ i < rel.length, t.isDir (dir ++ rel.take (i + 1)) = true
  | _, [], _, i, hi => absurd hi (Nat.not_lt_zero i)
  | dir, n :: rel, h, i, hi => by
    simp only [enters, Bool.and_eq_true] at h
    obtain ⟨⟨-, hn⟩, hrel⟩ := h
    cases i with
    | zero => simpa using hn
    | succ i =>
      have := isDir_of_enters hrel i (by simpa using hi)
      simpa using this

lemma length_le_of_enters {dir rel : TreePath} (h : t.enters dir rel = true) :
    rel.length ≤ t.dirs.length := by
  have hnodup : ((List.range rel.length).map fun i => dir ++ rel.take (i + 1)).Nodup := by
    refine List.Nodup.map_on (fun i hi k hk hik => ?_) List.nodup_range
    have hlen := congrArg List.length hik
    simp only [List.length_append, List.length_take] at hlen
    rw [List.mem_range] at hi hk
    omega
  have hsub : ((List.range rel.length).map fun i => dir ++ rel.take (i + 1)) ⊆ t.dirs := by
    intro p hp
    obtain ⟨i, hi, rfl⟩ := List.mem_map.mp hp
    have hi := List.mem_range.mp hi
    have hdir := isDir_of_enters h i hi
    -- a path one name or more below `dir` is not the root, so it is listed
    have hne : dir ++ rel.take (i + 1) ≠ [] := by
      simp only [ne_eq, List.append_eq_nil_iff, List.take_eq_nil_iff, not_and, not_or]
      intro _
      exact ⟨by omega, List.ne_nil_of_length_pos (by omega)⟩
    simpa [isDir, hne] using hdir
  simpa using hnodup.length_le_of_subset hsub

/-! ### Directories lie in directories -/

lemma isDir_take (hn : t.Nested) {p : TreePath} (hp : t.isDir p = true) :
    ∀ m, t.isDir (p.take (p.length - m)) = true := by
  intro m
  induction m with
  | zero => simpa using hp
  | succ m ih =>
    by_cases hm : m < p.length
    · -- one level up from the directory `m` levels above `p`
      have hne : p.take (p.length - m) ≠ [] := by
        simp only [ne_eq, List.take_eq_nil_iff, not_or]
        exact ⟨by omega, by rintro rfl; simp at hm⟩
      have hmem : p.take (p.length - m) ∈ t.dirs := by simpa [isDir, hne] using ih
      have hparent := hn _ hmem
      rw [TreePath.parent, List.dropLast_eq_take, List.take_take, List.length_take] at hparent
      rwa [show min (min (p.length - m) p.length - 1) (p.length - m) = p.length - (m + 1) by
        omega] at hparent
    · rw [show p.length - (m + 1) = 0 by omega, List.take_zero]
      rfl

lemma isDir_of_prefix (hn : t.Nested) {p q : TreePath} (hp : t.isDir p = true) (hq : q <+: p) :
    t.isDir q = true := by
  have h := isDir_take hn hp (p.length - q.length)
  rwa [show p.length - (p.length - q.length) = q.length by
      have := hq.length_le; omega, ← List.prefix_iff_eq_take.mp hq] at h

lemma enters_iff (hn : t.Nested) : ∀ {dir rel : TreePath}, t.isDir dir = true →
    (t.enters dir rel = true ↔ t.isDir (dir ++ rel) = true ∧ ∀ n ∈ rel, skippedDir n = false)
  | dir, [], hdir => by simp [enters, hdir]
  | dir, n :: rel, hdir => by
    simp only [enters, Bool.and_eq_true, Bool.not_eq_true', List.mem_cons, forall_eq_or_imp]
    constructor
    · rintro ⟨⟨hskip, hchild⟩, hrel⟩
      have := (enters_iff hn hchild).mp hrel
      exact ⟨by simpa using this.1, hskip, this.2⟩
    · rintro ⟨hd, hskip, hrest⟩
      have hchild : t.isDir (dir ++ [n]) = true :=
        isDir_of_prefix hn hd (by simp)
      exact ⟨⟨hskip, hchild⟩, (enters_iff hn hchild).mpr ⟨by simpa using hd, hrest⟩⟩

/-- **The walk of a selection.** From a directory of a tree whose directories lie in
directories, the walk the discovery makes lists exactly the example directories that the
directory reaches. -/
theorem mem_exampleDirs_iff (hn : t.Nested) {base d : TreePath} (hbase : t.isDir base = true) :
    d ∈ t.exampleDirs (t.dirs.length + 1) base ↔
      t.reaches base d = true ∧ (t.exampleKind d).isSome = true := by
  rw [mem_exampleDirs, reaches_iff]
  constructor
  · rintro ⟨rel, rfl, hrel, hkind, -⟩
    exact ⟨⟨rel, rfl, (enters_iff hn hbase).mp hrel⟩, hkind⟩
  · rintro ⟨⟨rel, rfl, hd, hskip⟩, hkind⟩
    have hrel := (enters_iff hn hbase).mpr ⟨hd, hskip⟩
    exact ⟨rel, rfl, hrel, hkind, Nat.lt_succ_of_le (length_le_of_enters hrel)⟩

end Tree

end SimRegress
