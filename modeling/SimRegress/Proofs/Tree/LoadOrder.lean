import Mathlib
import SimRegress.Proofs.Tree.Promote
import SimRegress.Proofs.Dataset.Validation

/-!
Loading the dataset files of a directory in any order.

A file system lists the entries of a directory in an order of its own. Loading goes through them
in that order (`Tree.loadListed`), skips every entry that is not a regular file with the suffix,
inserts each collection under its file's name and stops at the first file that fails; the store
of a directory is what the name order gives (`Tree.loadStore_eq_loadListed`).

The files listed have distinct names, all of them text, so each insertion sets its own name and
leaves the others alone (`lookup_insertByName`): whatever the order, the store maps exactly the
dataset files to their collections (`Tree.get?_loadListed`), and since a store keeps its names in
order, two stores that look up alike are equal (`eq_of_lookup_eq`). So every order gives the same store, it
succeeds exactly when every dataset file loads, and a failure is the error of a file that fails
(`LoadOrderLaw`).
-/

namespace SimRegress

section Lookup

variable {α : Type}

lemma lookup_cons_eq_ite (k x : String) (v : α) (l : List (String × α)) :
    ((k, v) :: l).lookup x = if x = k then some v else l.lookup x := by
  by_cases hx : x = k
  · simp [hx]
  · simp [List.lookup_cons, beq_false_of_ne hx, hx]

lemma lookup_insertByName (k x : String) (v : α) (l : List (String × α)) :
    (insertByName k v l).lookup x = if x = k then some v else l.lookup x := by
  fun_induction insertByName k v l with
  | case1 => rw [lookup_cons_eq_ite]
  | case2 k' v' r hlt => rw [lookup_cons_eq_ite]
  | case3 k' v' r hnlt heq =>
    -- the entry of the same name is replaced
    rw [beq_iff_eq] at heq
    subst heq
    rw [lookup_cons_eq_ite, lookup_cons_eq_ite]
    split_ifs <;> rfl
  | case4 k' v' r hnlt hne ih =>
    rw [lookup_cons_eq_ite, ih, lookup_cons_eq_ite]
    by_cases hx : x = k
    · have hk' : x ≠ k' := hx ▸ by simpa using hne
      rw [if_neg hk', if_pos hx, if_pos hx]
    · rw [if_neg hx, if_neg hx]

lemma eq_of_lookup_eq {l l' : List (String × α)} (hl : KeysSorted l) (hl' : KeysSorted l')
    (h : ∀ x, l.lookup x = l'.lookup x) : l = l' := by
  have : Std.Irrefl (fun a b : String × α => a.1 < b.1) := ⟨fun a => lt_irrefl a.1⟩
  refine List.Pairwise.eq_of_mem_iff (List.pairwise_map.mp hl) (List.pairwise_map.mp hl') ?_
  intro e
  constructor
  · intro he
    exact mem_of_lookup ((h e.1).symm.trans (lookup_of_mem hl he))
  · intro he
    exact mem_of_lookup ((h e.1).trans (lookup_of_mem hl' he))

end Lookup


namespace Tree

variable {t : Tree} {dir : TreePath} {s : String}

/-- Loads the collection of a file into a store, under the text of the file's name. -/
def loadInto (t : Tree) (S : Store) (p : TreePath) : Except DatasetError Store := do
  pure (S.insert p.name.lossy (← t.loadCollection p))

/-- The dataset files among the entries `listing` of a directory, in the order listed: the
entries whose names are text with the suffix that are regular files. -/
def listedFiles (t : Tree) (dir : TreePath) (suffix : String) (listing : List OsName) :
    List TreePath :=
  ((listing.filter (·.toStr?.any (·.endsWith suffix))).map (dir ++ [·])).filter t.isFile

/-- Loads the dataset files of a directory one after the other in the order in which `listing`
lists its entries, stopping at the first that fails. -/
def loadListed (t : Tree) (dir : TreePath) (suffix : String) (listing : List OsName) :
    Except DatasetError Store :=
  (t.listedFiles dir suffix listing).foldlM t.loadInto {}

lemma loadInto_eq_ok {S S' : Store} {p : TreePath} :
    t.loadInto S p = .ok S' ↔ ∃ c, t.loadCollection p = .ok c ∧ S' = S.insert p.name.lossy c := by
  unfold loadInto
  cases t.loadCollection p with
  | error e => simp [bind, Except.bind]
  | ok c =>
    simp only [bind, Except.bind, pure, Except.pure, Except.ok.injEq, exists_eq_left']
    exact eq_comm

lemma loadInto_eq_error {S : Store} {p : TreePath} {e : DatasetError} :
    t.loadInto S p = .error e ↔ t.loadCollection p = .error e := by
  unfold loadInto
  cases t.loadCollection p with
  | error e' => simp [bind, Except.bind]
  | ok c => simp [bind, Except.bind, pure, Except.pure]

lemma loadStore_eq_loadListed (hd : t.isDir dir = true) :
    t.loadStore dir s = t.loadListed dir s (t.children dir) := by
  simp only [loadStore, loadListed, listedFiles, filesWithSuffix, hd, if_true]
  rfl

lemma loadStore_of_not_isDir (hd : t.isDir dir = false) : t.loadStore dir s = .ok {} := by
  simp only [loadStore, filesWithSuffix, hd, Bool.false_eq_true, if_false, List.foldlM_nil]
  rfl

lemma mem_listedFiles {listing : List OsName} {p : TreePath} :
    p ∈ t.listedFiles dir s listing ↔ ∃ x : String, .text x ∈ listing ∧ p = dir ++ [.text x] ∧
      x.endsWith s = true ∧ t.isFile p = true := by
  simp only [listedFiles, List.mem_filter, List.mem_map, OsName.toStr?_any_iff]
  constructor
  · rintro ⟨⟨_, ⟨hx, x, rfl, hs⟩, rfl⟩, hf⟩
    exact ⟨x, hx, rfl, hs, hf⟩
  · rintro ⟨x, hx, rfl, hs, hf⟩
    exact ⟨⟨.text x, ⟨hx, x, rfl, hs⟩, rfl⟩, hf⟩

lemma names_listedFiles_sublist (listing : List OsName) :
    List.Sublist ((t.listedFiles dir s listing).map TreePath.name) listing := by
  have h := (List.filter_sublist (p := t.isFile)
    (l := (listing.filter (·.toStr?.any (·.endsWith s))).map (dir ++ [·]))).map TreePath.name
  simp only [List.map_map, Function.comp_def, TreePath.name_append, List.map_id'] at h
  exact h.trans List.filter_sublist

lemma nodup_keys_listedFiles {listing : List OsName} (hl : listing.Nodup) :
    ((t.listedFiles dir s listing).map (·.name.lossy)).Nodup := by
  have hnames : ((t.listedFiles dir s listing).map TreePath.name).Nodup :=
    (names_listedFiles_sublist listing).nodup hl
  show ((t.listedFiles dir s listing).map (OsName.lossy ∘ TreePath.name)).Nodup
  rw [← List.map_map]
  refine hnames.map_on ?_
  intro a ha b hb hab
  obtain ⟨p, hp, rfl⟩ := List.mem_map.mp ha
  obtain ⟨q, hq, rfl⟩ := List.mem_map.mp hb
  obtain ⟨x, -, rfl, -, -⟩ := mem_listedFiles.mp hp
  obtain ⟨y, -, rfl, -, -⟩ := mem_listedFiles.mp hq
  simpa using hab

lemma foldlM_loadInto_get : ∀ {ps : List TreePath} {S₀ S : Store},
    (ps.map (·.name.lossy)).Nodup → ps.foldlM t.loadInto S₀ = .ok S →
      (∀ p ∈ ps, ∃ c, t.loadCollection p = .ok c ∧ S.get? p.name.lossy = some c) ∧
        ∀ x, x ∉ ps.map (·.name.lossy) → S.get? x = S₀.get? x
  | [], S₀, S, _, h => by
    cases h
    exact ⟨fun p hp => absurd hp List.not_mem_nil, fun _ _ => rfl⟩
  | p :: ps, S₀, S, hnd, h => by
    rw [List.map_cons, List.nodup_cons] at hnd
    simp only [List.foldlM_cons] at h
    obtain ⟨S₁, hp, h⟩ := except_bind_eq_ok h
    obtain ⟨c, hc, rfl⟩ := loadInto_eq_ok.mp hp
    obtain ⟨hget, hrest⟩ := foldlM_loadInto_get hnd.2 h
    -- the file's own name is not loaded again, so it keeps the collection just inserted
    have hself : S.get? p.name.lossy = some c := by
      rw [hrest p.name.lossy hnd.1, Store.get?, Store.insert, lookup_insertByName, if_pos rfl]
    refine ⟨fun q hq => ?_, fun x hx => ?_⟩
    · rcases List.mem_cons.mp hq with rfl | hq
      · exact ⟨c, hc, hself⟩
      · exact hget q hq
    · have hx' : x ∉ ps.map (·.name.lossy) := fun h' => hx (List.mem_cons_of_mem _ h')
      have hne : x ≠ p.name.lossy := fun h' => hx (h' ▸ List.mem_cons_self)
      rw [hrest x hx', Store.get?, Store.insert, lookup_insertByName, if_neg hne]
      rfl

lemma keysSorted_loadListed {listing : List OsName} {S : Store}
    (h : t.loadListed dir s listing = .ok S) : KeysSorted S.files := by
  refine foldlM_except_invariant (P := fun S : Store => KeysSorted S.files)
    (fun S₀ p S₁ hS₀ hp => ?_) _ {} List.Pairwise.nil h
  obtain ⟨c, -, rfl⟩ := loadInto_eq_ok.mp hp
  exact keysSorted_insertByName hS₀

lemma loadInto_ok_iff (S : Store) (p : TreePath) :
    (∃ S', t.loadInto S p = .ok S') ↔ ∃ c, t.loadCollection p = .ok c := by
  constructor
  · rintro ⟨S', hS'⟩
    obtain ⟨c, hc, -⟩ := loadInto_eq_ok.mp hS'
    exact ⟨c, hc⟩
  · rintro ⟨c, hc⟩
    exact ⟨_, loadInto_eq_ok.mpr ⟨c, hc, rfl⟩⟩

section Listing

variable {listing : List OsName}

lemma mem_listedFiles_of_perm (hl : listing.Perm (t.children dir)) {x : String}
    (hs : x.endsWith s = true) (hf : t.isFile (dir ++ [.text x]) = true) :
    dir ++ [.text x] ∈ t.listedFiles dir s listing :=
  mem_listedFiles.mpr ⟨x, hl.mem_iff.mpr (mem_children.mpr (.inl hf)), rfl, hs, hf⟩

lemma loadListed_ok_iff (hl : listing.Perm (t.children dir)) :
    (∃ S, t.loadListed dir s listing = .ok S) ↔
      ∀ x : String, x.endsWith s = true → t.isFile (dir ++ [.text x]) = true →
        ∃ c, t.loadCollection (dir ++ [.text x]) = .ok c := by
  rw [loadListed, foldlM_ok_iff loadInto_ok_iff _ {}]
  constructor
  · intro h x hs hf
    exact h _ (mem_listedFiles_of_perm hl hs hf)
  · intro h p hp
    obtain ⟨x, -, rfl, hs, hf⟩ := mem_listedFiles.mp hp
    exact h x hs hf

lemma get?_loadListed (hl : listing.Perm (t.children dir)) {S : Store}
    (h : t.loadListed dir s listing = .ok S) (x : String) (c : Collection) :
    S.get? x = some c ↔ x.endsWith s = true ∧ t.isFile (dir ++ [.text x]) = true ∧
      t.loadCollection (dir ++ [.text x]) = .ok c := by
  have hnd : ((t.listedFiles dir s listing).map (·.name.lossy)).Nodup :=
    nodup_keys_listedFiles (hl.nodup_iff.mpr (t.children_sorted dir).nodup)
  obtain ⟨hget, hrest⟩ := foldlM_loadInto_get hnd h
  constructor
  · intro hx
    by_cases hmem : x ∈ (t.listedFiles dir s listing).map (·.name.lossy)
    · -- a listed file: the text of its name looks up its collection
      obtain ⟨p, hp, rfl⟩ := List.mem_map.mp hmem
      obtain ⟨y, -, rfl, hs, hf⟩ := mem_listedFiles.mp hp
      obtain ⟨c', hc', hget'⟩ := hget _ hp
      rw [hx, Option.some.injEq] at hget'
      subst hget'
      simp only [TreePath.name_append, OsName.lossy_text]
      exact ⟨hs, hf, hc'⟩
    · -- any other name looks up nothing, as in the empty store
      rw [hrest x hmem] at hx
      cases hx
  · rintro ⟨hs, hf, hc⟩
    obtain ⟨c', hc', hget'⟩ := hget _ (mem_listedFiles_of_perm hl hs hf)
    rw [hc, Except.ok.injEq] at hc'
    subst hc'
    simpa using hget'

/-- **Two listings of the entries load as the same store.** -/
lemma loadListed_perm {listing' : List OsName} (hl : listing.Perm (t.children dir))
    (hl' : listing'.Perm (t.children dir)) {S : Store} (h : t.loadListed dir s listing = .ok S) :
    t.loadListed dir s listing' = .ok S := by
  obtain ⟨S', hS'⟩ := (loadListed_ok_iff hl').mpr ((loadListed_ok_iff hl).mp ⟨S, h⟩)
  -- both stores keep their names in order and look up alike
  have hfiles : S'.files = S.files :=
    eq_of_lookup_eq (keysSorted_loadListed hS') (keysSorted_loadListed h) fun x =>
      Option.ext fun c => (get?_loadListed hl' hS' x c).trans (get?_loadListed hl h x c).symm
  rw [hS']
  cases S
  cases S'
  cases hfiles
  rfl

lemma loadListed_error {e : DatasetError} (h : t.loadListed dir s listing = .error e) :
    ∃ x : String, x.endsWith s = true ∧ t.isFile (dir ++ [.text x]) = true ∧
      t.loadCollection (dir ++ [.text x]) = .error e := by
  obtain ⟨p, hp, S', hS'⟩ := exists_error_of_foldlM h
  obtain ⟨x, -, rfl, hs, hf⟩ := mem_listedFiles.mp hp
  exact ⟨x, hs, hf, loadInto_eq_error.mp hS'⟩

end Listing

end Tree

/-- Loading the dataset files of a directory, for every order in which its entries may be
listed. -/
structure LoadOrderLaw (t : Tree) (dir : TreePath) (s : String) : Prop where
  /-- A directory that is not there loads as the empty store. -/
  missing : t.isDir dir = false → t.loadStore dir s = .ok {}
  /-- A directory is loaded with its entries in name order. -/
  inNameOrder : t.isDir dir = true → t.loadStore dir s = t.loadListed dir s (t.children dir)
  /-- In any order, loading succeeds exactly when every dataset file loads. -/
  ok_iff : ∀ listing : List OsName, listing.Perm (t.children dir) →
    ((∃ S, t.loadListed dir s listing = .ok S) ↔
      ∀ x : String, x.endsWith s = true → t.isFile (dir ++ [.text x]) = true →
        ∃ c, t.loadCollection (dir ++ [.text x]) = .ok c)
  /-- The store maps exactly the dataset files, by the texts of their names, to their
  collections. -/
  store : ∀ (listing : List OsName) (S : Store), listing.Perm (t.children dir) →
    t.loadListed dir s listing = .ok S →
    ∀ x c, S.get? x = some c ↔ x.endsWith s = true ∧ t.isFile (dir ++ [.text x]) = true ∧
      t.loadCollection (dir ++ [.text x]) = .ok c
  /-- So every order loads the same store. -/
  same : ∀ (listing listing' : List OsName) (S : Store), listing.Perm (t.children dir) →
    listing'.Perm (t.children dir) → t.loadListed dir s listing = .ok S →
    t.loadListed dir s listing' = .ok S
  /-- A load that fails has the error of a dataset file that fails to load. -/
  error : ∀ (listing : List OsName) (e : DatasetError), t.loadListed dir s listing = .error e →
    ∃ x : String, x.endsWith s = true ∧ t.isFile (dir ++ [.text x]) = true ∧
      t.loadCollection (dir ++ [.text x]) = .error e

/-- **Loading a directory's dataset files does not depend on the order they are listed in.** -/
theorem Tree.loadStore_order_independent (t : Tree) (dir : TreePath) (s : String) :
    LoadOrderLaw t dir s where
  missing := Tree.loadStore_of_not_isDir
  inNameOrder := Tree.loadStore_eq_loadListed
  ok_iff _ hl := Tree.loadListed_ok_iff hl
  store _ _ hl h := Tree.get?_loadListed hl h
  same _ _ _ hl hl' h := Tree.loadListed_perm hl hl' h
  error _ _ h := Tree.loadListed_error h

end SimRegress
