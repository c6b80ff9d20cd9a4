import Mathlib
import SimRegress.Run.Output

/-!
Finding one text inside another, and the program a core file's description names.

`Text.dropThrough pat cs` finds the first occurrence of `pat`: it gives `rest` exactly when `cs`
is `pre ++ pat ++ rest` with no occurrence of `pat` starting before the end of `pre`
(`Text.dropThrough_eq_some_iff`), and it finds something exactly when `pat` is an infix of `cs`
(`Text.occursIn_iff_infix`). A pattern whose last character occurs nowhere else in it cannot
overlap the text in front of it, so after a text that does not hold it, it is first found right
there (`Text.firstOccurrence_append`).

The program named in a core file's description (`coreExecutable?`) is the first word of the
command quoted after the first `from '`, in a description that says `core file`
(`CoreDescription`, `coreExecutable?_eq_some_iff`); so every description laid out as `file`
writes one names its program (`coreExecutable?_of_layout`). Reading works on characters, so
every cut it makes falls between two of them.
-/

namespace SimRegress

lemma takeWhile_eq_iff_front {α : Type} {p : α → Bool} {l w : List α} :
    l.takeWhile p = w ↔ ∃ r, l = w ++ r ∧ (∀ x ∈ w, p x = true) ∧ ∀ x ∈ r.head?, p x = false := by
  constructor
  · rintro rfl
    refine ⟨l.dropWhile p, List.takeWhile_append_dropWhile.symm,
      fun x hx => List.mem_takeWhile_imp hx, fun x hx => ?_⟩
    have h := List.head?_dropWhile_not p l
    rw [Option.mem_def.mp hx] at h
    exact h
  · rintro ⟨r, rfl, hw, hr⟩
    rw [List.takeWhile_append_of_pos hw]
    cases r with
    | nil => simp
    | cons y r => simp [List.takeWhile_cons_of_neg, hr y rfl]

namespace Text

variable {pat cs pre rest : List Char}

/-- `pat` occurs in `cs` right after `pre`, followed by `rest`, and at no earlier place. -/
def FirstOccurrence (pat cs pre rest : List Char) : Prop :=
  cs = pre ++ pat ++ rest ∧ ∀ pre' rest', cs = pre' ++ pat ++ rest' → pre.length ≤ pre'.length

lemma FirstOccurrence.rest_eq {pre' rest' : List Char} (h : FirstOccurrence pat cs pre rest)
    (h' : FirstOccurrence pat cs pre' rest') : rest = rest' := by
  have hlen : (pre ++ pat).length = (pre' ++ pat).length := by
    have h₁ := h.2 pre' rest' h'.1
    have h₂ := h'.2 pre rest h.1
    simp only [List.length_append]
    omega
  exact (List.append_inj (h.1.symm.trans h'.1) hlen).2

lemma firstOccurrence_of_dropThrough (h : dropThrough pat cs = some rest) :
    ∃ pre, FirstOccurrence pat cs pre rest := by
  induction cs with
  | nil =>
    simp only [dropThrough, Option.ite_none_right_eq_some, Option.some.injEq] at h
    obtain ⟨hpat, rfl⟩ := h
    rw [List.isEmpty_iff] at hpat
    subst hpat
    exact ⟨[], by simp, fun _ _ _ => Nat.zero_le _⟩
  | cons c cs ih =>
    simp only [dropThrough] at h
    split at h
    · -- the pattern starts here
      rename_i hp
      cases h
      obtain ⟨r, hr⟩ := List.isPrefixOf_iff_prefix.mp hp
      refine ⟨[], ?_, fun _ _ _ => Nat.zero_le _⟩
      rw [← hr]
      simp
    · -- it starts later, and not here
      rename_i hp
      obtain ⟨pre, heq, hmin⟩ := ih h
      refine ⟨c :: pre, by simp [heq], fun pre' rest' h' => ?_⟩
      cases pre' with
      | nil => exact absurd (List.isPrefixOf_iff_prefix.mpr ⟨rest', h'.symm⟩) hp
      | cons c' pre' =>
        simp only [List.cons_append, List.cons.injEq] at h'
        simpa using hmin pre' rest' h'.2

lemma not_infix_of_dropThrough_eq_none (h : dropThrough pat cs = none) : ¬ pat <:+: cs := by
  induction cs with
  | nil =>
    simp only [dropThrough, ite_eq_right_iff, reduceCtorEq, imp_false, List.isEmpty_iff] at h
    simpa using h
  | cons c cs ih =>
    simp only [dropThrough] at h
    split at h
    · cases h
    · rename_i hp
      rw [List.infix_cons_iff, not_or]
      exact ⟨fun h' => hp (List.isPrefixOf_iff_prefix.mpr h'), ih h⟩

/-- **The search finds the first occurrence.** -/
theorem dropThrough_eq_some_iff :
    dropThrough pat cs = some rest ↔ ∃ pre, FirstOccurrence pat cs pre rest := by
  constructor
  · exact firstOccurrence_of_dropThrough
  · rintro ⟨pre, hfirst⟩
    cases hd : dropThrough pat cs with
    | none => exact absurd ⟨pre, rest, hfirst.1.symm⟩ (not_infix_of_dropThrough_eq_none hd)
    | some r =>
      obtain ⟨pre', hfirst'⟩ := firstOccurrence_of_dropThrough hd
      rw [hfirst'.rest_eq hfirst]

/-- A pattern occurs exactly when it is an infix. -/
theorem occursIn_iff_infix : occursIn pat cs = true ↔ pat <:+: cs := by
  unfold occursIn
  constructor
  · intro h
    obtain ⟨rest, hrest⟩ := Option.isSome_iff_exists.mp h
    obtain ⟨pre, heq, -⟩ := firstOccurrence_of_dropThrough hrest
    exact ⟨pre, rest, heq.symm⟩
  · intro h
    cases hd : dropThrough pat cs with
    | none => exact absurd h (not_infix_of_dropThrough_eq_none hd)
    | some r => rfl

theorem contains_iff_infix {s t : String} : contains s t = true ↔ t.toList <:+: s.toList :=
  occursIn_iff_infix

lemma prefix_of_overlap {q u x : List Char} {c : Char} (hc : c ∉ q) (hu : u ≠ [])
    (h : q ++ [c] <+: u ++ (q ++ [c] ++ x)) : q ++ [c] <+: u := by
  by_cases hlen : (q ++ [c]).length ≤ u.length
  · exact List.prefix_of_prefix_length_le h (List.prefix_append _ _) hlen
  exfalso
  -- otherwise `u` is a proper start of the pattern, and the rest `w` of it starts the pattern again
  obtain ⟨w, hw⟩ : u <+: q ++ [c] :=
    List.prefix_of_prefix_length_le (List.prefix_append _ _) h (by omega)
  have hwx : w <+: q ++ ([c] ++ x) := by
    have huw : u ++ w <+: u ++ (q ++ [c] ++ x) := by
      rw [hw]
      exact h
    simpa using (List.prefix_append_right_inj u).mp huw
  have hlenw : w.length ≤ q.length := by
    have hsum := congrArg List.length hw
    have hpos := List.length_pos_iff.mpr hu
    simp only [List.length_append, List.length_singleton] at hsum
    omega
  have hwq : w <+: q := List.prefix_of_prefix_length_le hwx (List.prefix_append _ _) hlenw
  -- `w` ends the pattern, so it holds `c`, which `q` does not
  have hcw : c ∈ w := by
    have hne : w ≠ [] := by
      rintro rfl
      simp only [List.append_nil] at hw
      simp [hw] at hlen
    obtain ⟨w', d, rfl⟩ := (List.eq_nil_or_concat' w).resolve_left hne
    rw [← List.append_assoc] at hw
    obtain ⟨-, hd⟩ := List.append_inj' hw rfl
    rw [List.singleton_inj] at hd
    simp [hd]
  exact hc (hwq.subset hcw)

/-- A pattern whose last character occurs nowhere else in it, put after a text that does not
hold it, is first found there. -/
theorem firstOccurrence_append {q p x : List Char} {c : Char} (hc : c ∉ q)
    (hp : ¬ q ++ [c] <:+: p) : FirstOccurrence (q ++ [c]) (p ++ (q ++ [c]) ++ x) p x := by
  refine ⟨rfl, fun pre' rest' h => ?_⟩
  by_contra hlt
  simp only [List.append_assoc] at h
  rw [List.append_eq_append_iff] at h
  rcases h with ⟨a', rfl, -⟩ | ⟨u, rfl, h⟩
  · simp at hlt
  · -- an earlier occurrence would start inside `p` and so lie in it
    have hu : u ≠ [] := by
      rintro rfl
      simp at hlt
    have hpre : q ++ [c] <+: u := prefix_of_overlap hc hu ⟨rest', by simpa using h⟩
    exact hp (hpre.isInfix.trans (List.suffix_append _ _).isInfix)

end Text

/-! ### The program a core file's description names -/

section Executable

variable {d e : String}

lemma coreExecutable?_eq_some_iff_dropThrough :
    coreExecutable? d = some e ↔ Text.contains d "core file" = true ∧
      ∃ rest, Text.dropThrough "from '".toList d.toList = some rest ∧ commandQuote ∈ rest ∧
        ((rest.takeWhile (· != commandQuote)).takeWhile (· != ' ')) ≠ [] ∧
        String.ofList ((rest.takeWhile (· != commandQuote)).takeWhile (· != ' ')) = e := by
  simp only [coreExecutable?, Option.bind_eq_bind, Option.bind_eq_some_iff, Option.guard_eq_some',
    Option.pure_def, Option.some.injEq, exists_const, List.contains_iff_mem, Bool.not_eq_true',
    List.isEmpty_eq_false_iff]

/-- A description of a core file that names the program `e`: it says `core file`, and after its
first `from '` comes a command, up to the next quote, whose first word is `e`: no space in it,
and a space or the end of the command after it. -/
def CoreDescription (d e : String) : Prop :=
  "core file".toList <:+: d.toList ∧
    ∃ pre mid post,
      Text.FirstOccurrence "from '".toList d.toList pre (mid ++ commandQuote :: post) ∧
      commandQuote ∉ mid ∧ e.toList ≠ [] ∧ ' ' ∉ e.toList ∧
      ∃ r, mid = e.toList ++ r ∧ ∀ c ∈ r.head?, c = ' '

/-- **The program a core file's description names** is the one it describes. -/
theorem coreExecutable?_eq_some_iff : coreExecutable? d = some e ↔ CoreDescription d e := by
  rw [coreExecutable?_eq_some_iff_dropThrough, Text.contains_iff_infix, CoreDescription]
  refine and_congr_right fun _ => ⟨?_, ?_⟩
  · rintro ⟨rest, hrest, hq, hne, rfl⟩
    obtain ⟨pre, hfirst⟩ := Text.dropThrough_eq_some_iff.mp hrest
    -- the command runs up to the first quote, and the word up to the first space
    obtain ⟨r₁, hr₁, hmid, hhead₁⟩ := takeWhile_eq_iff_front.mp
      (rfl : rest.takeWhile (· != commandQuote) = _)
    obtain ⟨r₂, hr₂, hword, hhead₂⟩ := takeWhile_eq_iff_front.mp
      (rfl : (rest.takeWhile (· != commandQuote)).takeWhile (· != ' ') = _)
    obtain ⟨post, rfl⟩ : ∃ post, r₁ = commandQuote :: post := by
      cases r₁ with
      | nil =>
        rw [hr₁, List.append_nil] at hq
        simpa using hmid _ hq
      | cons y post => exact ⟨post, by simpa using hhead₁ y rfl⟩
    refine ⟨pre, _, post, hr₁ ▸ hfirst, fun h => by simpa using hmid _ h,
      by simpa [String.toList_ofList] using hne, fun h => ?_, r₂, ?_, fun c hc => ?_⟩
    · have hspace := hword ' ' (by simpa [String.toList_ofList] using h)
      simp at hspace
    · rw [String.toList_ofList]
      exact hr₂
    · simpa using hhead₂ c hc
  · rintro ⟨pre, mid, post, hfirst, hq, hne, hsp, r, hmid, hr⟩
    have hcommand : (mid ++ commandQuote :: post).takeWhile (· != commandQuote) = mid :=
      takeWhile_eq_iff_front.mpr ⟨commandQuote :: post, rfl,
        fun x hx => bne_iff_ne.mpr fun h => hq (h ▸ hx), by simp⟩
    have hword : mid.takeWhile (· != ' ') = e.toList :=
      takeWhile_eq_iff_front.mpr ⟨r, hmid, fun x hx => bne_iff_ne.mpr fun h => hsp (h ▸ hx),
        fun c hc => by simpa using hr c hc⟩
    refine ⟨mid ++ commandQuote :: post, Text.dropThrough_eq_some_iff.mpr ⟨pre, hfirst⟩,
      by simp, ?_⟩
    rw [hcommand, hword]
    exact ⟨hne, String.ofList_toList⟩

example : coreExecutable? "core: LSB core file, x86-64" = none := by decide +kernel

/-- Every description laid out as `file` writes it, after a text that says `core file` and not
`from '`, names the program: the first word of the command, whatever follows it. -/
theorem coreExecutable?_of_layout {p e a q : String} (hcore : "core file".toList <:+: p.toList)
    (hfrom : ¬ "from '".toList <:+: p.toList) (he : e ≠ "") (hsp : ' ' ∉ e.toList)
    (heq : commandQuote ∉ e.toList) (haq : commandQuote ∉ a.toList) :
    coreExecutable? (p ++ "from '" ++ e ++ " " ++ a ++ "'" ++ q) = some e := by
  have hpat : "from '".toList = "from ".toList ++ [commandQuote] := rfl
  have hd : (p ++ "from '" ++ e ++ " " ++ a ++ "'" ++ q).toList =
      p.toList ++ ("from ".toList ++ [commandQuote]) ++
        ((e.toList ++ ' ' :: a.toList) ++ commandQuote :: q.toList) := by
    simp [commandQuote]
  rw [coreExecutable?_eq_some_iff, CoreDescription, hd]
  refine ⟨hcore.trans (List.IsPrefix.isInfix (by simp)), p.toList, e.toList ++ ' ' :: a.toList,
    q.toList, Text.firstOccurrence_append (by decide) (hpat ▸ hfrom), ?_, by simpa using he, hsp,
    ' ' :: a.toList, rfl, by simp⟩
  simp only [List.mem_append, List.mem_cons, not_or]
  exact ⟨heq, by decide, haq⟩

/-- **A core file's description names its program by pattern.** Reading the program off a
description gives `e` exactly when the description says `core file` and the command quoted after
its first `from '` starts with the word `e`; so every description laid out as `file` writes it
names the first word of its command. -/
theorem coreExecutable?_law :
    (∀ d e : String, coreExecutable? d = some e ↔ CoreDescription d e) ∧
      ∀ p e a q : String, "core file".toList <:+: p.toList → ¬ "from '".toList <:+: p.toList →
        e ≠ "" → ' ' ∉ e.toList → commandQuote ∉ e.toList → commandQuote ∉ a.toList →
        coreExecutable? (p ++ "from '" ++ e ++ " " ++ a ++ "'" ++ q) = some e :=
  ⟨fun _ _ => coreExecutable?_eq_some_iff, fun _ _ _ _ => coreExecutable?_of_layout⟩

/-- The description `file` gives of a core file left by `./main --x` names `./main`. -/
theorem coreExecutable?_law_main :
    "core file".toList <:+: "core: ELF 64-bit LSB core file, ".toList ∧
      ¬ "from '".toList <:+: "core: ELF 64-bit LSB core file, ".toList ∧
      "./main" ≠ "" ∧ ' ' ∉ "./main".toList ∧ commandQuote ∉ "./main".toList ∧
      commandQuote ∉ "--x".toList ∧
      coreExecutable? ("core: ELF 64-bit LSB core file, " ++ "from '" ++ "./main" ++ " " ++ "--x" ++
        "'" ++ ", real uid: 1000") = some "./main" := by
  have hcore : "core file".toList <:+: "core: ELF 64-bit LSB core file, ".toList := by
    decide +kernel
  have hfrom : ¬ "from '".toList <:+: "core: ELF 64-bit LSB core file, ".toList := by
    decide +kernel
  have he : "./main" ≠ "" := by decide
  have hsp : ' ' ∉ "./main".toList := by decide
  have heq : commandQuote ∉ "./main".toList := by decide
  have haq : commandQuote ∉ "--x".toList := by decide
  exact ⟨hcore, hfrom, he, hsp, heq, haq,
    coreExecutable?_law.2 _ _ _ ", real uid: 1000" hcore hfrom he hsp heq haq⟩

end Executable

end SimRegress
