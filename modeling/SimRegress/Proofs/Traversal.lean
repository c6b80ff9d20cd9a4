import Mathlib

/-!
# Binds, maps and folds in `Except`

The readers and loaders of the library run in `Except`: a chain of binds, a map over a list, a
fold over a list. A run that succeeds took the success of every step (`except_bind_eq_ok`,
`forall₂_of_mapM`); one that fails has the error of one step (`except_bind_eq_error`,
`exists_error_of_mapM`, `exists_error_of_foldlM`), the first failing one when the steps before it
succeed (`mapM_error_of_first`, `foldlM_error_of_first`); and what every step of a fold keeps
holds of its result (`foldlM_except_invariant`). What a map gives element by element is carried
by `List.Forall₂`, which maps and flat maps over one list keep (`forall₂_flatMap_flatMap`).
-/

namespace SimRegress

variable {α β γ σ ε ε' : Type}

/-! ### Binds -/

section Bind

variable {x : Except ε α} {f : α → Except ε β}

lemma except_bind_eq_ok {b : β} (h : (x >>= f) = .ok b) : ∃ a, x = .ok a ∧ f a = .ok b := by
  cases x with
  | error e => cases h
  | ok a => exact ⟨a, rfl, h⟩

lemma except_bind_eq_error {e : ε} (h : (x >>= f) = .error e) :
    x = .error e ∨ ∃ a, x = .ok a ∧ f a = .error e := by
  cases x with
  | error e' =>
    cases h
    exact .inl rfl
  | ok a => exact .inr ⟨a, rfl, h⟩

lemma except_mapError_eq_ok {g : ε → ε'} {a : α} (h : x.mapError g = .ok a) : x = .ok a := by
  cases x with
  | error e => cases h
  | ok a' => cases h; rfl

lemma except_mapError_eq_error {g : ε → ε'} {e : ε'} (h : x.mapError g = .error e) :
    ∃ e₀, x = .error e₀ ∧ e = g e₀ := by
  cases x with
  | error e₀ =>
    cases h
    exact ⟨e₀, rfl, rfl⟩
  | ok a => cases h

end Bind

/-! ### Lists related element by element -/

lemma exists_forall₂ {R : α → β → Prop} :
    ∀ (xs : List α), (∀ x ∈ xs, ∃ b, R x b) → ∃ bs, List.Forall₂ R xs bs
  | [], _ => ⟨[], .nil⟩
  | x :: xs, h => by
    obtain ⟨b, hb⟩ := h x (by simp)
    obtain ⟨bs, hbs⟩ := exists_forall₂ xs (fun x' hx' => h x' (by simp [hx']))
    exact ⟨b :: bs, .cons hb hbs⟩

lemma exists_of_forall₂_mem {R : α → β → Prop} :
    ∀ {l : List α} {bs : List β}, List.Forall₂ R l bs → ∀ x ∈ l, ∃ b ∈ bs, R x b
  | _, _, .nil => fun x hx => absurd hx List.not_mem_nil
  | _, _, .cons hab hrest => fun x hx => by
    rcases List.mem_cons.mp hx with rfl | hx
    · exact ⟨_, List.mem_cons_self, hab⟩
    · obtain ⟨b, hb, hxb⟩ := exists_of_forall₂_mem hrest x hx
      exact ⟨b, List.mem_cons_of_mem _ hb, hxb⟩

lemma forall₂_map_map {R : β → γ → Prop} {f : α → β} {g : α → γ} (l : List α)
    (h : ∀ x ∈ l, R (f x) (g x)) : List.Forall₂ R (l.map f) (l.map g) := by
  rw [List.forall₂_map_left_iff, List.forall₂_map_right_iff]
  exact List.forall₂_same.2 h

lemma forall₂_flatMap_flatMap {R : β → γ → Prop} {f : α → List β} {g : α → List γ}
    (l : List α) (h : ∀ x ∈ l, List.Forall₂ R (f x) (g x)) :
    List.Forall₂ R (l.flatMap f) (l.flatMap g) := by
  induction l with
  | nil => exact .nil
  | cons x l ih =>
    simp only [List.flatMap_cons]
    exact List.rel_append (h x (List.mem_cons_self ..))
      (ih fun y hy => h y (List.mem_cons_of_mem _ hy))

/-! ### Maps -/

section MapM

variable {f : α → Except ε β}

lemma forall₂_of_mapM : ∀ {l : List α} {bs : List β}, l.mapM f = .ok bs →
    List.Forall₂ (fun x b => f x = .ok b) l bs
  | [], bs, h => by
    cases h
    exact .nil
  | x :: l, bs, h => by
    simp only [List.mapM_cons] at h
    obtain ⟨b, hx, h⟩ := except_bind_eq_ok h
    obtain ⟨bs', hl, h⟩ := except_bind_eq_ok h
    cases h
    exact .cons hx (forall₂_of_mapM hl)

lemma mapM_of_forall₂ :
    ∀ {l : List α} {bs : List β}, List.Forall₂ (fun x b => f x = .ok b) l bs → l.mapM f = .ok bs
  | _, _, .nil => rfl
  | _, _, .cons hx hrest => by
    simp only [List.mapM_cons, hx, mapM_of_forall₂ hrest]
    rfl

lemma mapM_ok_of_forall {l : List α} (h : ∀ x ∈ l, ∃ b, f x = .ok b) :
    ∃ bs, l.mapM f = .ok bs := by
  obtain ⟨bs, hbs⟩ := exists_forall₂ l h
  exact ⟨bs, mapM_of_forall₂ hbs⟩

lemma exists_error_of_mapM : ∀ {l : List α} {e : ε}, l.mapM f = .error e →
    ∃ x ∈ l, f x = .error e
  | [], e, h => by cases h
  | x :: l, e, h => by
    simp only [List.mapM_cons] at h
    rcases except_bind_eq_error h with hx | ⟨b, -, h⟩
    · exact ⟨x, List.mem_cons_self, hx⟩
    rcases except_bind_eq_error h with hl | ⟨bs', -, h⟩
    · obtain ⟨y, hy, hye⟩ := exists_error_of_mapM hl
      exact ⟨y, List.mem_cons_of_mem _ hy, hye⟩
    · cases h

lemma mapM_error_of_first {e : ε} :
    ∀ (pre : List α) (x : α) (post : List α), (∀ y ∈ pre, ∃ b, f y = .ok b) → f x = .error e →
      (pre ++ x :: post).mapM f = .error e
  | [], x, post, _, hx => by
    simp only [List.nil_append, List.mapM_cons, hx]
    rfl
  | y :: pre, x, post, hpre, hx => by
    obtain ⟨b, hb⟩ := hpre y List.mem_cons_self
    have hrest := mapM_error_of_first pre x post (fun z hz => hpre z (List.mem_cons_of_mem _ hz)) hx
    simp only [List.cons_append, List.mapM_cons, hb, hrest]
    rfl

end MapM

/-! ### Folds -/

section FoldlM

variable {g : σ → α → Except ε σ}

lemma foldlM_except_invariant {P : σ → Prop} (hf : ∀ s x s', P s → g s x = .ok s' → P s') :
    ∀ (l : List α) (s : σ) {r : σ}, P s → l.foldlM g s = .ok r → P r
  | [], s, r, hs, h => by
    simp only [List.foldlM_nil] at h
    cases h
    exact hs
  | x :: l, s, r, hs, h => by
    simp only [List.foldlM_cons] at h
    obtain ⟨s', hx, h⟩ := except_bind_eq_ok h
    exact foldlM_except_invariant hf l s' (hf s x s' hs hx) h

lemma foldlM_ok_iff {P : α → Prop} (hg : ∀ s x, (∃ s', g s x = .ok s') ↔ P x) :
    ∀ (l : List α) (s : σ), (∃ r, l.foldlM g s = .ok r) ↔ ∀ x ∈ l, P x
  | [], s => ⟨fun _ x hx => (List.not_mem_nil hx).elim, fun _ => ⟨s, rfl⟩⟩
  | x :: l, s => by
    simp only [List.foldlM_cons, List.forall_mem_cons]
    rcases hx : g s x with e | s'
    · have hnot : ¬ P x := fun hp => by
        obtain ⟨s', hs'⟩ := (hg s x).mpr hp
        rw [hx] at hs'
        cases hs'
      simp only [hnot, false_and, iff_false, not_exists]
      intro r hr
      cases hr
    · have hp : P x := (hg s x).mp ⟨s', hx⟩
      simp only [hp, true_and]
      exact foldlM_ok_iff hg l s'

lemma foldlM_error_of_first {P : α → Prop} (hg : ∀ s x, P x → ∃ s', g s x = .ok s') {e : ε}
    (x : α) (hx : ∀ s, g s x = .error e) :
    ∀ (pre post : List α) (s : σ), (∀ y ∈ pre, P y) → (pre ++ x :: post).foldlM g s = .error e
  | [], post, s, _ => by
    simp only [List.nil_append, List.foldlM_cons, hx]
    rfl
  | y :: pre, post, s, hpre => by
    obtain ⟨s', hs'⟩ := hg s y (hpre y List.mem_cons_self)
    simp only [List.cons_append, List.foldlM_cons, hs']
    exact foldlM_error_of_first hg x hx pre post s' fun z hz => hpre z (List.mem_cons_of_mem _ hz)

lemma exists_error_of_foldlM :
    ∀ {l : List α} {s : σ} {e : ε}, l.foldlM g s = .error e → ∃ x ∈ l, ∃ s', g s' x = .error e
  | [], s, e, h => by cases h
  | x :: l, s, e, h => by
    simp only [List.foldlM_cons] at h
    rcases except_bind_eq_error h with hx | ⟨s', -, h⟩
    · exact ⟨x, List.mem_cons_self, s, hx⟩
    · obtain ⟨y, hy, s'', hys⟩ := exists_error_of_foldlM h
      exact ⟨y, List.mem_cons_of_mem _ hy, s'', hys⟩

end FoldlM

end SimRegress
