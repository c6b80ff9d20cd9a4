import Mathlib
import SimRegress.Tree.CoreFiles
import SimRegress.Proofs.Tree.Clean
import SimRegress.Proofs.Text.Search

/-!
Which files count as core files, and what removing them does.

A core file starts with an ELF header of type core (`ElfCoreHeader`): the magic bytes, a byte
order, and the type word 4 written in that order. The header test reads exactly that
(`isCoreHeader_iff`), so the core files of a directory are the regular files directly in it whose
names are text containing `core` and whose bytes start with such a header, listed once each and in
order (`Tree.mem_coreFiles`, `Tree.coreFiles_sorted`).

Removing a file either succeeds and forgets its bytes, or fails where there is no file and keeps
the tree; either way the bytes at that path and no others are gone afterwards. A run of such steps
forgets the bytes at each of its paths and keeps everything else (`Tree.foldl_forgets`), so
removing the core files of a directory deletes exactly them (`Tree.removeCoreFiles_law`).
-/

namespace SimRegress

/-! ### The header of a core file -/

/-- The header of an ELF core file, in the first eighteen bytes: the magic bytes `7f 45 4c 46`,
a sixth byte that says the words are little-endian (1) or big-endian (2), and the type word at
offset 16 equal to 4 in that order, so written `04 00` little-endian and `00 04` big-endian. -/
def ElfCoreHeader (bytes : List UInt8) : Prop :=
  18 ≤ bytes.length ∧ bytes.take 4 = [0x7f, 0x45, 0x4c, 0x46] ∧
    (bytes[5]? = some 1 ∧ (bytes.drop 16).take 2 = [4, 0] ∨
      bytes[5]? = some 2 ∧ (bytes.drop 16).take 2 = [0, 4])

instance : DecidablePred ElfCoreHeader := fun _ => inferInstanceAs (Decidable (_ ∧ _))

lemma word_eq_four_iff {lo hi : UInt8} : lo.toNat + 256 * hi.toNat = 4 ↔ lo = 4 ∧ hi = 0 := by
  have hlo := lo.toNat_lt
  simp only [← UInt8.toNat_inj, UInt8.reduceToNat]
  omega

lemma typeWord_eq_four_iff {b5 b16 b17 : UInt8} :
    (if b5 == 1 then b16.toNat + 256 * b17.toNat == 4
      else if b5 == 2 then b17.toNat + 256 * b16.toNat == 4 else false) = true ↔
      b5 = 1 ∧ [b16, b17] = [4, 0] ∨ b5 = 2 ∧ [b16, b17] = [0, 4] := by
  by_cases h1 : b5 = 1
  · simp [h1, word_eq_four_iff]
  by_cases h2 : b5 = 2
  · simp [h2, word_eq_four_iff, and_comm]
  · simp [h1, h2]

/-- **The header test reads an ELF core header.** -/
theorem isCoreHeader_iff (bytes : List UInt8) :
    isCoreHeader bytes = true ↔ ElfCoreHeader bytes := by
  unfold isCoreHeader
  split
  · -- eighteen bytes or more: the magic, then the type word in the order the sixth byte gives
    rename_i b0 b1 b2 b3 _ b5 _ _ _ _ _ _ _ _ _ _ b16 b17 _
    rw [Bool.and_eq_true, typeWord_eq_four_iff]
    simp [ElfCoreHeader, and_assoc]
  · -- fewer than eighteen bytes: a header would give the first eighteen
    rename_i hshort
    simp only [Bool.false_eq_true, false_iff]
    intro h
    have hlen := h.1
    exact hshort bytes[0] bytes[1] bytes[2] bytes[3] bytes[4] bytes[5] bytes[6] bytes[7] bytes[8]
      bytes[9] bytes[10] bytes[11] bytes[12] bytes[13] bytes[14] bytes[15] bytes[16] bytes[17]
      (bytes.drop 18) (by simp only [List.cons_getElem_drop_succ, List.drop_zero])

example : ¬ ElfCoreHeader [0x7f, 0x45, 0x4c, 0x46, 2, 1, 1, 0, 0, 0, 0, 0, 0, 0, 0, 0, 3, 0] := by
  decide

namespace Tree

variable {t : Tree} {dir p : TreePath}

lemma isCoreFile_iff :
    t.isCoreFile p = true ↔ ∃ bytes, t.file? p = some bytes ∧ ElfCoreHeader bytes := by
  unfold isCoreFile
  cases t.file? p with
  | none => simp
  | some bytes => simp [isCoreHeader_iff]

/-- The core files of a directory are the regular files directly in it whose names are text
containing `core` and whose bytes start with an ELF core header. -/
theorem mem_coreFiles :
    p ∈ t.coreFiles dir ↔ t.isDir dir = true ∧ ∃ x : String, p = dir ++ [.text x] ∧
      "core".toList <:+: x.toList ∧ ∃ bytes, t.file? p = some bytes ∧ ElfCoreHeader bytes := by
  by_cases hd : t.isDir dir = true
  · simp only [coreFiles, hd, if_true, List.mem_filter, List.mem_map, mem_children,
      OsName.toStr?_any_iff, Bool.and_eq_true, Text.contains_iff_infix, isCoreFile_iff, true_and]
    constructor
    · rintro ⟨⟨x, ⟨-, n, rfl, hx⟩, rfl⟩, -, hcore⟩
      exact ⟨n, rfl, hx, hcore⟩
    · rintro ⟨n, rfl, hx, bytes, hb, hh⟩
      have hf : t.isFile (dir ++ [.text n]) = true := by simp [isFile, hb]
      exact ⟨⟨.text n, ⟨.inl hf, n, rfl, hx⟩, rfl⟩, hf, bytes, hb, hh⟩
  · simp [coreFiles, hd]

/-- The core files come in increasing order of their paths, so each once. -/
theorem coreFiles_sorted (t : Tree) (dir : TreePath) : (t.coreFiles dir).Pairwise (· < ·) := by
  by_cases hd : t.isDir dir = true
  · simp only [coreFiles, hd, if_true]
    refine List.Pairwise.filter _ ?_
    rw [List.pairwise_map]
    exact ((t.children_sorted dir).filter _).imp fun h =>
      (TreePath.append_singleton_lt_iff dir _ _).mpr h
  · simp [coreFiles, hd]

/-- **A run of forgetting steps.** Steps that each forget the bytes at one path and keep
everything else forget, in a run, the bytes at each of its paths and keep everything else. -/
lemma foldl_forgets {step : Tree → TreePath → Tree}
    (hstep : ∀ t p, (step t p).dirs = t.dirs ∧
      ∀ q, (step t p).file? q = if q = p then none else t.file? q) :
    ∀ (ps : List TreePath) (t : Tree), (ps.foldl step t).dirs = t.dirs ∧
      ∀ q, (ps.foldl step t).file? q = if q ∈ ps then none else t.file? q
  | [], t => ⟨rfl, fun q => by simp⟩
  | p :: ps, t => by
    obtain ⟨hdirs, hfile⟩ := hstep t p
    obtain ⟨hdirs', hfile'⟩ := foldl_forgets hstep ps (step t p)
    refine ⟨hdirs'.trans hdirs, fun q => ?_⟩
    rw [List.foldl_cons, hfile', hfile]
    by_cases hq : q = p
    · simp [hq]
    · by_cases hqs : q ∈ ps <;> simp [hq, hqs]

/-- Removing the core files of a directory forgets exactly their bytes and keeps the directories
and the bytes of every other file. -/
theorem removeCoreFiles_eq :
    (t.removeCoreFiles dir).dirs = t.dirs ∧
      ∀ q, (t.removeCoreFiles dir).file? q = if q ∈ t.coreFiles dir then none else t.file? q := by
  unfold removeCoreFiles
  refine foldl_forgets (fun t p => ?_) _ _
  -- a removal that succeeds forgets `p`; one that fails found no file there, and keeps the tree
  cases h : t.removeFile p with
  | ok t' =>
    obtain ⟨-, hdirs, hfile⟩ := removeFile_eq_ok h
    exact ⟨hdirs, hfile⟩
  | error f =>
    obtain ⟨hnf, -⟩ := removeFile_eq_error h
    refine ⟨rfl, fun q => ?_⟩
    split_ifs with hq
    · subst hq
      simpa [isFile] using hnf
    · rfl

end Tree

/-- Removing the stale core files of a directory `dir`: which files are core files, in which
order they are listed, and what removing them leaves. -/
structure CoreCleanupLaw (t : Tree) (dir : TreePath) : Prop where
  /-- The core files are the regular files directly in the directory whose names are text
  containing `core` and whose bytes start with an ELF core header. -/
  listed : ∀ p, p ∈ t.coreFiles dir ↔ t.isDir dir = true ∧ ∃ x : String, p = dir ++ [.text x] ∧
    "core".toList <:+: x.toList ∧ ∃ bytes, t.file? p = some bytes ∧ ElfCoreHeader bytes
  /-- They are listed in increasing order. -/
  sorted : (t.coreFiles dir).Pairwise (· < ·)
  /-- Removing them keeps every directory. -/
  dirs : (t.removeCoreFiles dir).dirs = t.dirs
  /-- It forgets the bytes of the core files and keeps those of every other file. -/
  files : ∀ q, (t.removeCoreFiles dir).file? q = if q ∈ t.coreFiles dir then none else t.file? q

/-- **Core-file cleanup deletes only ELF core dumps.** -/
theorem Tree.removeCoreFiles_law (t : Tree) (dir : TreePath) : CoreCleanupLaw t dir where
  listed _ := Tree.mem_coreFiles
  sorted := t.coreFiles_sorted dir
  dirs := Tree.removeCoreFiles_eq.1
  files := Tree.removeCoreFiles_eq.2

end SimRegress
