import Mathlib
import SimRegress.Job.Discovery
import SimRegress.Proofs.Tree.Names

/-!
# Directories with UTF-8 names have distinct ids

The id of an example joins the texts of components with `/`, the ill-formed parts of a name
replaced: its path below the root, `.` for the root itself, and the whole path after `//` for a
directory outside the root (`jobId_eq_intercalate` through `idParts`). When no component holds a
`/`, the components come back by splitting at `/` (`intercalate_slash_inj`), and `idPath` reads
the directory back from them, provided its names are UTF-8 names a file system could give: text,
so that the text is the name, not empty, which would blur the `//` that marks an outside path,
and not `.`, which would look like the root (`idPath_idParts`). So such directories have
distinct ids (`jobId_inj`), inside the root or not. Names that are not UTF-8 can share their
text, and with it their id.
-/

namespace SimRegress

/-- A text a file system could give as the name of an entry: not empty, not `.`, and without
`/`. -/
def EntryName (n : String) : Prop := n ≠ "" ∧ n ≠ "." ∧ '/' ∉ n.toList

instance (n : String) : Decidable (EntryName n) := inferInstanceAs (Decidable (_ ∧ _ ∧ _))

/-- A name that is UTF-8 and that a file system could give. -/
def TextEntryName : OsName → Prop
  | .text s => EntryName s
  | .bytes _ _ => False

instance : DecidablePred TextEntryName := fun n =>
  match n with
  | .text s => inferInstanceAs (Decidable (EntryName s))
  | .bytes _ _ => inferInstanceAs (Decidable False)

lemma TextEntryName.text_lossy {n : OsName} (h : TextEntryName n) :
    OsName.text n.lossy = n ∧ EntryName n.lossy := by
  cases n with
  | text s => exact ⟨rfl, h⟩
  | bytes b hb => exact h.elim

/-- The components an id joins with `/`: the path below the root, `.` for the root itself, and
for a directory outside the root two empty components, which put `//` in front, before its
path. -/
def idParts (root d : TreePath) : List String :=
  if root.isPrefixOf d then
    if d.drop root.length = [] then ["."] else (d.drop root.length).map OsName.lossy
  else "" :: "" :: d.map OsName.lossy

lemma jobId_eq_intercalate (root d : TreePath) :
    jobId root d = "/".intercalate (idParts root d) := by
  unfold jobId idParts
  by_cases hp : root.isPrefixOf d = true
  · by_cases hr : d.drop root.length = [] <;> simp [hp, hr]
  · cases d with
    | nil => simp [hp]
    | cons n d =>
      simp only [hp, Bool.false_eq_true, if_false, List.map_cons, String.intercalate_cons_cons]
      rw [← String.append_assoc]
      rfl

lemma idParts_ne_nil (root d : TreePath) : idParts root d ≠ [] := by
  unfold idParts
  split
  · split
    · simp
    · rwa [ne_eq, List.map_eq_nil_iff]
  · simp

lemma no_slash_idParts {root d : TreePath} (hd : ∀ n ∈ d, TextEntryName n) :
    ∀ n ∈ idParts root d, '/' ∉ n.toList := by
  intro n hn
  unfold idParts at hn
  split at hn
  · split at hn
    · simp [List.mem_singleton.mp hn]
    · obtain ⟨m, hm, rfl⟩ := List.mem_map.mp hn
      exact (hd m (List.mem_of_mem_drop hm)).text_lossy.2.2.2
  · simp only [List.mem_cons] at hn
    rcases hn with rfl | rfl | hn
    · simp
    · simp
    · obtain ⟨m, hm, rfl⟩ := List.mem_map.mp hn
      exact (hd m hm).text_lossy.2.2.2

lemma intercalate_slash_inj {l₁ l₂ : List String} (h₁ : l₁ ≠ []) (h₂ : l₂ ≠ [])
    (hs₁ : ∀ n ∈ l₁, '/' ∉ n.toList) (hs₂ : ∀ n ∈ l₂, '/' ∉ n.toList)
    (h : "/".intercalate l₁ = "/".intercalate l₂) : l₁ = l₂ := by
  have hsplit := congrArg (fun s => s.toList.splitOn '/') h
  simp only [String.toList_intercalate] at hsplit
  rw [show "/".toList = ['/'] from rfl, List.splitOn_intercalate _ (by simpa using hs₁)
    (by simpa using h₁), List.splitOn_intercalate _ (by simpa using hs₂) (by simpa using h₂)]
    at hsplit
  exact List.map_injective_iff.mpr (fun _ _ => String.toList_injective) hsplit

/-! ### Reading an id back -/

/-- Reads a directory back from the components of its id. -/
def idPath (root : TreePath) : List String → TreePath
  | "" :: "" :: d => d.map .text
  | ["."] => root
  | rel => root ++ rel.map .text

lemma map_text_lossy {d : TreePath} (hd : ∀ n ∈ d, TextEntryName n) :
    (d.map OsName.lossy).map OsName.text = d := by
  conv_rhs => rw [← List.map_id d]
  rw [List.map_map]
  exact List.map_congr_left fun n hn => (hd n hn).text_lossy.1

lemma idPath_idParts {root d : TreePath} (hd : ∀ n ∈ d, TextEntryName n) :
    idPath root (idParts root d) = d := by
  unfold idParts
  by_cases hp : root.isPrefixOf d = true
  · have hd' : root ++ d.drop root.length = d :=
      List.prefix_iff_eq_append.mp (List.isPrefixOf_iff_prefix.mp hp)
    have hdrop : ∀ n ∈ d.drop root.length, TextEntryName n :=
      fun n hn => hd n (List.mem_of_mem_drop hn)
    rw [if_pos hp]
    by_cases hr : d.drop root.length = []
    · rw [if_pos hr, idPath, ← hd', hr, List.append_nil]
    · rw [if_neg hr]
      obtain ⟨n, rest, hnr⟩ := List.exists_cons_of_ne_nil hr
      have hn : EntryName n.lossy :=
        (hdrop n (by rw [hnr]; exact List.mem_cons_self)).text_lossy.2
      rw [hnr, List.map_cons]
      -- a name below the root is neither empty nor `.`, so the id is read as a relative path
      unfold idPath
      split
      next heq => exact absurd (List.cons.inj heq).1 hn.1
      next heq => exact absurd (List.cons.inj heq).1 hn.2.1
      next => rw [← List.map_cons, ← hnr, map_text_lossy hdrop, hd']
  · rw [if_neg hp, idPath, map_text_lossy hd]

lemma idParts_inj {root d₁ d₂ : TreePath} (hd₁ : ∀ n ∈ d₁, TextEntryName n)
    (hd₂ : ∀ n ∈ d₂, TextEntryName n) (h : idParts root d₁ = idParts root d₂) : d₁ = d₂ := by
  rw [← idPath_idParts hd₁, h, idPath_idParts hd₂]

/-- Directories whose names are UTF-8 names a file system could give have distinct ids. -/
theorem jobId_inj {root d₁ d₂ : TreePath} (hd₁ : ∀ n ∈ d₁, TextEntryName n)
    (hd₂ : ∀ n ∈ d₂, TextEntryName n) (h : jobId root d₁ = jobId root d₂) : d₁ = d₂ := by
  rw [jobId_eq_intercalate, jobId_eq_intercalate] at h
  exact idParts_inj hd₁ hd₂ (intercalate_slash_inj (idParts_ne_nil root d₁)
    (idParts_ne_nil root d₂) (no_slash_idParts hd₁) (no_slash_idParts hd₂) h)

/-! ### Trees with such names -/

/-- A tree whose directories have UTF-8 names a file system could give them. -/
def Tree.TextNamed (t : Tree) : Prop := ∀ d ∈ t.dirs, ∀ n ∈ d, TextEntryName n

instance (t : Tree) : Decidable t.TextNamed :=
  inferInstanceAs (Decidable (∀ d ∈ t.dirs, ∀ n ∈ d, TextEntryName n))

lemma Tree.textEntryNames_of_isDir {t : Tree} (hw : t.TextNamed) {d : TreePath}
    (hd : t.isDir d = true) : ∀ n ∈ d, TextEntryName n := by
  cases d with
  | nil => simp
  | cons n d => exact hw _ (by simpa [Tree.isDir] using hd)

end SimRegress
