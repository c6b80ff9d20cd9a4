import Mathlib
import SimRegress.Proofs.Tree.Files

/-!
Cleaning the outputs of an example directory.

Cleaning removes `time.dat` when something is there, and then the dataset files of the directory,
which it lists after that removal. Removing a regular file forgets its bytes and nothing else
(`Tree.removeFile_eq_ok`), and the dataset files are distinct regular files, so removing them one
after the other always succeeds and forgets exactly their bytes (`Tree.foldlM_removeFile`). So
cleaning fails only where `time.dat` is a directory and no file (`Tree.cleanOutputs_eq_error`),
and when it succeeds it forgets the bytes of `time.dat` and of the dataset files only, and keeps
every directory (`Tree.cleanOutputs_eq_ok`). On a tree whose files lie in directories and are no
directories (`Tree.FilesInDirs`), as on a file system, nothing is left at `time.dat` and no
regular file with the suffix is left directly in the directory (`CleanLaw`).
-/

namespace SimRegress

lemma TreePath.append_singleton_lt_iff (d : TreePath) (x y : OsName) :
    d ++ [x] < d ++ [y] ↔ x < y := by
  induction d with
  | nil => simp [List.cons_lt_cons_iff]
  | cons a d ih => simp [ih]

namespace Tree

variable {t t₁ t' : Tree}

lemma filesWithSuffix_sorted (t : Tree) (d : TreePath) (s : String) :
    (t.filesWithSuffix d s).Pairwise (· < ·) := by
  by_cases hd : t.isDir d = true
  · rw [filesWithSuffix_of_isDir hd, List.pairwise_map]
    exact (t.datasetNames_sorted d s).imp fun h => (TreePath.append_singleton_lt_iff d _ _).mpr h
  · simp [filesWithSuffix, hd]

/-- Every file lies in a directory and is no directory itself, as on a file system. -/
def FilesInDirs (t : Tree) : Prop :=
  ∀ p, t.isFile p = true → t.isDir p = false ∧ t.isDir p.parent = true

lemma removeFile_eq_ok {p : TreePath} (h : t.removeFile p = .ok t') :
    t.isFile p = true ∧ t'.dirs = t.dirs ∧ ∀ q, t'.file? q = if q = p then none else t.file? q := by
  unfold removeFile at h
  split at h
  · cases h
    exact ⟨‹_›, rfl, fun q => lookup_filter_ne⟩
  · split at h <;> cases h

lemma removeFile_of_isFile {p : TreePath} (h : t.isFile p = true) :
    ∃ t', t.removeFile p = .ok t' := by
  simp [removeFile, h]

lemma removeFile_eq_error {p : TreePath} {f : IoFault} (h : t.removeFile p = .error f) :
    t.isFile p = false ∧ f = if t.isDir p then .isDirectory else .notFound := by
  unfold removeFile at h
  split at h
  · cases h
  · rename_i hf
    refine ⟨by simpa using hf, ?_⟩
    split at h <;> cases h <;> simp [*]

lemma foldlM_removeFile : ∀ {ps : List TreePath} {t : Tree}, ps.Nodup →
    (∀ p ∈ ps, t.isFile p = true) →
    ∃ t', ps.foldlM (fun t f => (t.removeFile f).mapError (FsError.remove f)) t = .ok t' ∧
      t'.dirs = t.dirs ∧ ∀ q, t'.file? q = if q ∈ ps then none else t.file? q
  | [], t, _, _ => ⟨t, rfl, rfl, fun q => by simp⟩
  | p :: ps, t, hnd, hf => by
    rw [List.nodup_cons] at hnd
    obtain ⟨t₁, h₁⟩ := removeFile_of_isFile (hf p List.mem_cons_self)
    obtain ⟨-, hdirs₁, hfile₁⟩ := removeFile_eq_ok h₁
    -- the other files are still there after the first is removed
    have hrest : ∀ q ∈ ps, t₁.isFile q = true := by
      intro q hq
      have hne : q ≠ p := fun h => hnd.1 (h ▸ hq)
      rw [isFile, hfile₁, if_neg hne]
      exact hf q (List.mem_cons_of_mem _ hq)
    obtain ⟨t', h', hdirs', hfile'⟩ := foldlM_removeFile hnd.2 hrest
    refine ⟨t', ?_, hdirs'.trans hdirs₁, fun q => ?_⟩
    · simp only [List.foldlM_cons, Except.mapError, h₁]
      exact h'
    · rw [hfile', hfile₁]
      by_cases hq : q = p
      · simp [hq]
      · by_cases hqs : q ∈ ps <;> simp [hq, hqs]

section Clean

variable {dir : TreePath} {s : String}

lemma removeDatasetFiles (dir : TreePath) (s : String) (t₁ : Tree) :
    ∃ t', (t₁.filesWithSuffix dir s).foldlM
        (fun t f => (t.removeFile f).mapError (FsError.remove f)) t₁ = .ok t' ∧
      t'.dirs = t₁.dirs ∧
        ∀ q, t'.file? q = if q ∈ t₁.filesWithSuffix dir s then none else t₁.file? q :=
  foldlM_removeFile (t₁.nodup_filesWithSuffix dir s)
    fun _ hp => (mem_filesWithSuffix.mp hp).2.choose_spec.2.2

lemma cleanOutputs_eq_ok (h : t.cleanOutputs dir s = .ok t') :
    (t.isFile (dir ++ [.text timeFileName]) = true ∨
        t.isDir (dir ++ [.text timeFileName]) = false) ∧
      ∃ t₁ : Tree, t₁.dirs = t.dirs ∧
        (∀ q, t₁.file? q = if q = dir ++ [.text timeFileName] then none else t.file? q) ∧
        t'.dirs = t₁.dirs ∧
        ∀ q, t'.file? q = if q ∈ t₁.filesWithSuffix dir s then none else t₁.file? q := by
  unfold cleanOutputs at h
  dsimp only at h
  split at h
  · -- `time.dat` is there: removing it must succeed
    obtain ⟨t₁, h₁, h₂⟩ := except_bind_eq_ok h
    obtain ⟨hf, hdirs₁, hfile₁⟩ := removeFile_eq_ok (except_mapError_eq_ok h₁)
    obtain ⟨t'', h'', hdirs'', hfile''⟩ := removeDatasetFiles dir s t₁
    rw [h₂] at h''
    cases h''
    exact ⟨.inl hf, t₁, hdirs₁, hfile₁, hdirs'', hfile''⟩
  · -- `time.dat` is not there: nothing to forget at its path
    rename_i hnone
    rw [pure_bind] at h
    simp only [Tree.exists, Bool.or_eq_true, not_or, Bool.not_eq_true] at hnone
    obtain ⟨t'', h'', hdirs'', hfile''⟩ := removeDatasetFiles dir s t
    rw [h] at h''
    cases h''
    refine ⟨.inr hnone.2, t, rfl, fun q => ?_, hdirs'', hfile''⟩
    split
    · subst q
      simpa [isFile] using hnone.1
    · rfl

lemma cleanOutputs_eq_error {e : FsError} (h : t.cleanOutputs dir s = .error e) :
    e = .remove (dir ++ [.text timeFileName]) .isDirectory ∧
      t.isFile (dir ++ [.text timeFileName]) = false ∧
      t.isDir (dir ++ [.text timeFileName]) = true := by
  unfold cleanOutputs at h
  dsimp only at h
  split at h
  · rename_i hex
    rcases except_bind_eq_error h with h₁ | ⟨t₁, -, h⟩
    · obtain ⟨f, hr, rfl⟩ := except_mapError_eq_error h₁
      obtain ⟨hnf, rfl⟩ := removeFile_eq_error hr
      -- it is there and no file, so a directory
      have hd : t.isDir (dir ++ [.text timeFileName]) = true := by
        simpa [Tree.exists, hnf] using hex
      exact ⟨by simp [hd], hnf, hd⟩
    · -- after `time.dat`, removing the dataset files succeeds
      obtain ⟨t'', h'', -⟩ := removeDatasetFiles dir s t₁
      cases h''.symm.trans h
  · rw [pure_bind] at h
    obtain ⟨t'', h'', -⟩ := removeDatasetFiles dir s t
    rw [h''] at h
    cases h

lemma exists_time_of_cleanOutputs (hfs : t.FilesInDirs) (h : t.cleanOutputs dir s = .ok t') :
    t'.exists (dir ++ [.text timeFileName]) = false := by
  obtain ⟨htime, t₁, hdirs₁, hfile₁, hdirs', hfile'⟩ := cleanOutputs_eq_ok h
  have hnofile : t'.file? (dir ++ [.text timeFileName]) = none := by
    rw [hfile', hfile₁, if_pos rfl]
    split <;> rfl
  -- `time.dat` was a regular file, hence no directory, or no directory at all
  have hnodir : t.isDir (dir ++ [.text timeFileName]) = false := by
    rcases htime with hf | hd
    · exact (hfs _ hf).1
    · exact hd
  simp only [Tree.exists, isFile, hnofile, Option.isSome_none, Bool.false_or, isDir, hdirs',
    hdirs₁]
  exact hnodir

lemma isFile_of_cleanOutputs (hfs : t.FilesInDirs) (h : t.cleanOutputs dir s = .ok t')
    {x : String} (hs : x.endsWith s = true) : t'.isFile (dir ++ [.text x]) = false := by
  obtain ⟨-, t₁, hdirs₁, hfile₁, -, hfile'⟩ := cleanOutputs_eq_ok h
  rw [isFile, hfile']
  split
  · rfl
  · rename_i hmem
    -- a regular file left after `time.dat` would be in the directory, hence listed and removed
    cases hb : t₁.file? (dir ++ [.text x]) with
    | none => rfl
    | some b =>
      have hf₁ : t₁.isFile (dir ++ [.text x]) = true := by simp [isFile, hb]
      have hf : t.isFile (dir ++ [.text x]) = true := by
        rw [isFile, hfile₁] at hf₁
        split at hf₁
        · cases hf₁
        · exact hf₁
      have hd : t₁.isDir dir = true := by
        have := (hfs _ hf).2
        simp only [TreePath.parent_append] at this
        simpa [isDir, hdirs₁] using this
      exact absurd (mem_filesWithSuffix.mpr ⟨hd, x, rfl, hs, hf₁⟩) hmem

lemma frame_of_cleanOutputs (h : t.cleanOutputs dir s = .ok t') :
    t'.dirs = t.dirs ∧ ∀ p, p ≠ dir ++ [.text timeFileName] →
      (∀ x : String, p = dir ++ [.text x] → x.endsWith s = false) →
        t'.file? p = t.file? p := by
  obtain ⟨-, t₁, hdirs₁, hfile₁, hdirs', hfile'⟩ := cleanOutputs_eq_ok h
  refine ⟨hdirs'.trans hdirs₁, fun p htime hother => ?_⟩
  have hnot : p ∉ t₁.filesWithSuffix dir s := by
    intro hp
    obtain ⟨-, x, rfl, hs, -⟩ := mem_filesWithSuffix.mp hp
    simp [hother x rfl] at hs
  rw [hfile', if_neg hnot, hfile₁, if_neg htime]

end Clean

end Tree

/-- Cleaning the outputs of an example directory `dir` whose dataset files have the suffix `s`:
which files it lists, when it fails, and what it leaves. -/
structure CleanLaw (t : Tree) (dir : TreePath) (s : String) : Prop where
  /-- The dataset files are the regular files directly in the directory whose names are text
  with the suffix. -/
  listed : ∀ p, p ∈ t.filesWithSuffix dir s ↔
    t.isDir dir = true ∧
      ∃ x : String, p = dir ++ [.text x] ∧ x.endsWith s = true ∧ t.isFile p = true
  /-- They come sorted. -/
  sorted : (t.filesWithSuffix dir s).Pairwise (· < ·)
  /-- A directory that is not there has none. -/
  missing : t.isDir dir = false → t.filesWithSuffix dir s = []
  /-- Cleaning succeeds unless `time.dat` is a directory and no file. -/
  ok_iff : (∃ t', t.cleanOutputs dir s = .ok t') ↔
    t.isFile (dir ++ [.text timeFileName]) = true ∨ t.isDir (dir ++ [.text timeFileName]) = false
  /-- It then fails to remove that directory. -/
  error : ∀ e, t.cleanOutputs dir s = .error e →
    e = .remove (dir ++ [.text timeFileName]) .isDirectory
  /-- On a file system, nothing is left at `time.dat`. -/
  noTime : t.FilesInDirs → ∀ t', t.cleanOutputs dir s = .ok t' →
    t'.exists (dir ++ [.text timeFileName]) = false
  /-- On a file system, no regular file whose name is text with the suffix is left directly in
  the directory. -/
  noDatasetFiles : t.FilesInDirs → ∀ t', t.cleanOutputs dir s = .ok t' →
    ∀ x : String, x.endsWith s = true → t'.isFile (dir ++ [.text x]) = false
  /-- The directories stay, and so do the bytes of every other file: those below the directory's
  subdirectories and those directly in it whose names are not text with the suffix. -/
  frame : ∀ t', t.cleanOutputs dir s = .ok t' → t'.dirs = t.dirs ∧
    ∀ p, p ≠ dir ++ [.text timeFileName] →
      (∀ x : String, p = dir ++ [.text x] → x.endsWith s = false) → t'.file? p = t.file? p

/-- **Cleaning removes exactly the outputs of the previous run.** -/
theorem Tree.cleanOutputs_law (t : Tree) (dir : TreePath) (s : String) : CleanLaw t dir s where
  listed _ := Tree.mem_filesWithSuffix
  sorted := t.filesWithSuffix_sorted dir s
  missing hd := by simp [Tree.filesWithSuffix, hd]
  ok_iff := by
    constructor
    · rintro ⟨t', h⟩
      exact (Tree.cleanOutputs_eq_ok h).1
    · intro htime
      cases h : t.cleanOutputs dir s with
      | ok t' => exact ⟨t', rfl⟩
      | error e =>
        obtain ⟨-, hnf, hd⟩ := Tree.cleanOutputs_eq_error h
        simp [hnf, hd] at htime
  error _ h := (Tree.cleanOutputs_eq_error h).1
  noTime hfs _ h := Tree.exists_time_of_cleanOutputs hfs h
  noDatasetFiles hfs _ h _ hs := Tree.isFile_of_cleanOutputs hfs h hs
  frame _ h := Tree.frame_of_cleanOutputs h

end SimRegress
