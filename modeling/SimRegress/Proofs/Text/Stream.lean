import Mathlib
import SimRegress.Text.Utf8

/-!
# Decoding a byte stream in chunks

The front of a byte sequence is decided by its first bytes: a character by the bytes it takes, an
ill-formed part by those and at most the one byte after them. So bytes appended after a front that
is not cut short leave it as it is (`Front.of_append`), and taking away the bytes after a front
keeps a character, and leaves an ill-formed part either ill-formed or cut short, one replacement
character either way (`Front.of_char_drop`, `Front.of_invalid_drop`).

`Decodes bytes cs held` says that the bytes decode to the characters `cs`, with `held` the start of
a character that the bytes end in the middle of. Decoding splits where the held bytes start
(`Decodes.append`), and what comes before them, decoded alone, gives the same characters
(`Decodes.lossy_front`). The stream decoder keeps the bytes since the last `finish` decoded in this
way, call after call (`StreamState`), so the text it writes is that of decoding each segment
between two calls of `finish` at once (`stream_decodes_lossy`).
-/

namespace SimRegress.Text

/-! ### Fronts -/

/-- The same front, with `ys` after its rest. -/
def Front.extend (ys : List UInt8) : Front → Front
  | .char c rest => .char c (rest ++ ys)
  | .invalid rest => .invalid (rest ++ ys)
  | .truncated => .truncated

lemma continuation_append (ys : List UInt8) (k acc : Nat) (xs : List UInt8)
    (h : continuation k acc xs ≠ .truncated) :
    continuation k acc (xs ++ ys) = (continuation k acc xs).extend ys := by
  induction k generalizing acc xs with
  | zero => rfl
  | succ k ih =>
    cases xs with
    | nil => exact absurd rfl h
    | cons c rest =>
      simp only [continuation, List.cons_append] at h ⊢
      split
      · exact ih _ _ (by rwa [if_pos ‹_›] at h)
      · rfl

lemma continuation_suffix (k acc : Nat) (xs : List UInt8) :
    (∀ c r, continuation k acc xs = .char c r → r <:+ xs) ∧
      ∀ r, continuation k acc xs = .invalid r → r <:+ xs := by
  induction k generalizing acc xs with
  | zero => simp [continuation]
  | succ k ih =>
    cases xs with
    | nil => simp [continuation]
    | cons c rest =>
      simp only [continuation]
      split
      · -- a continuation byte: the rest is a suffix of what follows it
        exact ⟨fun c' r h => ((ih _ _).1 c' r h).trans (List.suffix_cons c rest),
          fun r h => ((ih _ _).2 r h).trans (List.suffix_cons c rest)⟩
      · simp

lemma continuation_char_drop (k acc : Nat) (p r : List UInt8) (c : Char)
    (h : continuation k acc (p ++ r) = .char c r) : continuation k acc p = .char c [] := by
  induction k generalizing acc p with
  | zero => simpa [continuation] using h
  | succ k ih =>
    cases p with
    | nil =>
      -- a character of `k + 1` more bytes leaves a rest shorter than `r`
      cases r with
      | nil => simp [continuation] at h
      | cons b r' =>
        simp only [List.nil_append, continuation] at h
        split at h
        · have hlen := ((continuation_suffix k _ r').1 c _ h).length_le
          simp only [List.length_cons] at hlen
          omega
        · simp at h
    | cons b p' =>
      by_cases hb : 128 ≤ b.toNat ∧ b.toNat ≤ 191
      · simp only [continuation, List.cons_append, hb, and_self, if_true] at h ⊢
        exact ih _ _ h
      · simp [continuation, hb] at h

lemma continuation_invalid_drop (k acc : Nat) (p r : List UInt8)
    (h : continuation k acc (p ++ r) = .invalid r) :
    continuation k acc p = .truncated ∧
      ∀ r', r'.head? = r.head? → continuation k acc (p ++ r') = .invalid r' := by
  induction k generalizing acc p with
  | zero => simp [continuation] at h
  | succ k ih =>
    cases p with
    | nil =>
      cases r with
      | nil => simp [continuation] at h
      | cons b r' =>
        by_cases hb : 128 ≤ b.toNat ∧ b.toNat ≤ 191
        · -- a continuation byte would leave a rest shorter than `r`
          simp only [List.nil_append, continuation, hb, and_self, if_true] at h
          have hlen := ((continuation_suffix k _ r').2 _ h).length_le
          simp only [List.length_cons] at hlen
          omega
        · refine ⟨rfl, fun s hs => ?_⟩
          cases s with
          | nil => simp at hs
          | cons b' s' =>
            simp only [List.head?_cons, Option.some.injEq] at hs
            subst hs
            simp [continuation, hb]
    | cons b p' =>
      by_cases hb : 128 ≤ b.toNat ∧ b.toNat ≤ 191
      · simp only [continuation, List.cons_append, hb, and_self, if_true] at h ⊢
        exact ih _ _ h
      · -- the ill-formed byte would be `b`, leaving a rest longer than `r`
        simp only [continuation, List.cons_append, hb, if_false, Front.invalid.injEq] at h
        have hlen := congrArg List.length h
        simp only [List.length_cons, List.length_append] at hlen
        omega

/-- **Bytes after a front that is not cut short are not read.** -/
theorem Front.of_append (ys : List UInt8) (xs : List UInt8) (h : Front.of xs ≠ .truncated) :
    Front.of (xs ++ ys) = (Front.of xs).extend ys := by
  cases xs with
  | nil => exact absurd rfl h
  | cons b rest =>
    simp only [Front.of, List.cons_append] at h ⊢
    split
    · rfl
    · split
      · rfl
      · cases rest with
        | nil => simp_all
        | cons c rest' =>
          simp only [List.cons_append] at h ⊢
          split
          · exact continuation_append ys _ _ _ (by simpa [*] using h)
          · rfl

/-! The four ways a front can start. -/

section Lead

variable {b : UInt8}

@[simp] lemma Front.of_ascii (hb : b.toNat < 0x80) (rest : List UInt8) :
    Front.of (b :: rest) = .char (Char.ofNat b.toNat) rest := by
  simp [Front.of, hb]

@[simp] lemma Front.of_badLead (hb : ¬ b.toNat < 0x80) (hl : leadShape b = none)
    (rest : List UInt8) : Front.of (b :: rest) = .invalid rest := by
  simp [Front.of, hb, hl]

@[simp] lemma Front.of_lead_nil {s : Nat × Nat × UInt8 × UInt8} (hb : ¬ b.toNat < 0x80)
    (hl : leadShape b = some s) : Front.of [b] = .truncated := by
  simp [Front.of, hb, hl]

lemma Front.of_lead_cons {k lead : Nat} {lo hi : UInt8} (hb : ¬ b.toNat < 0x80)
    (hl : leadShape b = some (k, lead, lo, hi)) (c : UInt8) (rest : List UInt8) :
    Front.of (b :: c :: rest) =
      if lo ≤ c ∧ c ≤ hi then continuation (k - 1) (lead * 64 + c.toNat % 64) rest
      else .invalid (c :: rest) := by
  simp [Front.of, hb, hl]

end Lead

lemma Front.of_cons_suffix (b : UInt8) (rest : List UInt8) :
    (∀ c r, Front.of (b :: rest) = .char c r → r <:+ rest) ∧
      ∀ r, Front.of (b :: rest) = .invalid r → r <:+ rest := by
  by_cases hb : b.toNat < 0x80
  · simp [hb]
  cases hl : leadShape b with
  | none => simp [hb, hl]
  | some s =>
    obtain ⟨k, lead, lo, hi⟩ := s
    cases rest with
    | nil => simp [Front.of_lead_nil hb hl]
    | cons c rest' =>
      rw [Front.of_lead_cons hb hl]
      split
      · obtain ⟨hchar, hinv⟩ := continuation_suffix (k - 1) (lead * 64 + c.toNat % 64) rest'
        exact ⟨fun c' r h => (hchar c' r h).trans (List.suffix_cons c rest'),
          fun r h => (hinv r h).trans (List.suffix_cons c rest')⟩
      · simp

lemma Front.rest_suffix (xs : List UInt8) :
    (∀ c r, Front.of xs = .char c r → r <:+ xs) ∧ ∀ r, Front.of xs = .invalid r → r <:+ xs := by
  cases xs with
  | nil => simp [Front.of]
  | cons b rest =>
    obtain ⟨hchar, hinv⟩ := Front.of_cons_suffix b rest
    exact ⟨fun c r h => (hchar c r h).trans (List.suffix_cons b rest),
      fun r h => (hinv r h).trans (List.suffix_cons b rest)⟩

lemma Front.length_rest_lt (xs : List UInt8) :
    (∀ c r, Front.of xs = .char c r → r.length < xs.length) ∧
      ∀ r, Front.of xs = .invalid r → r.length < xs.length := by
  cases xs with
  | nil => simp [Front.of]
  | cons b rest =>
    obtain ⟨hchar, hinv⟩ := Front.of_cons_suffix b rest
    exact ⟨fun c r h => by simpa using Nat.lt_succ_of_le (hchar c r h).length_le,
      fun r h => by simpa using Nat.lt_succ_of_le (hinv r h).length_le⟩

/-- **Without the bytes after it, a character still reads as itself.** -/
theorem Front.of_char_drop (p r : List UInt8) (c : Char) (h : Front.of (p ++ r) = .char c r) :
    Front.of p = .char c [] := by
  cases p with
  | nil =>
    have := (Front.length_rest_lt r).1 c r (by simpa using h)
    omega
  | cons b p' =>
    by_cases hb : b.toNat < 0x80
    · simp only [List.cons_append, Front.of_ascii hb, Front.char.injEq] at h ⊢
      simpa using h
    cases hl : leadShape b with
    | none => simp [hb, hl] at h
    | some s =>
      obtain ⟨k, lead, lo, hi⟩ := s
      cases p' with
      | nil =>
        -- the character would end before `r`, whose bytes it reads
        cases r with
        | nil => simp [Front.of_lead_nil hb hl] at h
        | cons c' t =>
          rw [List.singleton_append, Front.of_lead_cons hb hl] at h
          split at h
          · have := ((continuation_suffix _ _ t).1 _ _ h).length_le
            simp at this
          · simp at h
      | cons c' p'' =>
        rw [List.cons_append, List.cons_append, Front.of_lead_cons hb hl] at h
        rw [Front.of_lead_cons hb hl]
        split at h
        · rw [if_pos ‹_›]
          exact continuation_char_drop _ _ _ _ _ h
        · simp at h

/-- **Without the bytes after it, an ill-formed part is still ill-formed, or cut short;** and
before any bytes that start as the first byte after it did, it is ill-formed again. -/
theorem Front.of_invalid_drop (p r : List UInt8) (h : Front.of (p ++ r) = .invalid r) :
    (Front.of p = .invalid [] ∨ Front.of p = .truncated) ∧
      ∀ r', r'.head? = r.head? → Front.of (p ++ r') = .invalid r' := by
  cases p with
  | nil =>
    have := (Front.length_rest_lt r).2 r (by simpa using h)
    omega
  | cons b p' =>
    by_cases hb : b.toNat < 0x80
    · simp [hb] at h
    cases hl : leadShape b with
    | none =>
      -- a byte that starts no character is ill-formed alone, whatever follows
      simp only [List.cons_append, Front.of_badLead hb hl, Front.invalid.injEq,
        List.append_left_eq_self] at h
      subst h
      simp [hb, hl]
    | some s =>
      obtain ⟨k, lead, lo, hi⟩ := s
      cases p' with
      | nil =>
        cases r with
        | nil => simp [Front.of_lead_nil hb hl] at h
        | cons c' t =>
          rw [List.singleton_append, Front.of_lead_cons hb hl] at h
          split at h
          · -- a byte in range would leave a rest shorter than `r`
            have := ((continuation_suffix _ _ t).2 _ h).length_le
            simp at this
          · refine ⟨.inr (Front.of_lead_nil hb hl), fun r' hr' => ?_⟩
            cases r' with
            | nil => simp at hr'
            | cons c'' t' =>
              simp only [List.head?_cons, Option.some.injEq] at hr'
              subst hr'
              rw [List.singleton_append, Front.of_lead_cons hb hl, if_neg ‹_›]
      | cons c' p'' =>
        rw [List.cons_append, List.cons_append, Front.of_lead_cons hb hl] at h
        split at h
        · obtain ⟨htrunc, hrest⟩ := continuation_invalid_drop _ _ _ _ h
          refine ⟨.inr (by rw [Front.of_lead_cons hb hl, if_pos ‹_›, htrunc]), fun r' hr' => ?_⟩
          rw [List.cons_append, List.cons_append, Front.of_lead_cons hb hl, if_pos ‹_›]
          exact hrest r' hr'
        · simp only [Front.invalid.injEq] at h
          have := congrArg List.length h
          simp only [List.length_cons, List.length_append] at this
          omega

/-! ### Decoding -/

/-- The bytes decode to the characters `cs`, with `held` the start of a character that they end
in the middle of. -/
inductive Decodes : List UInt8 → List Char → List UInt8 → Prop where
  | char {bytes rest : List UInt8} {c : Char} {cs : List Char} {held : List UInt8} :
      Front.of bytes = .char c rest → Decodes rest cs held → Decodes bytes (c :: cs) held
  | invalid {bytes rest : List UInt8} {cs : List Char} {held : List UInt8} :
      Front.of bytes = .invalid rest → Decodes rest cs held →
        Decodes bytes (replacement :: cs) held
  | truncated {bytes : List UInt8} : Front.of bytes = .truncated → Decodes bytes [] bytes

namespace Decodes

lemma nil : Decodes [] [] [] := .truncated rfl

/-- Every byte sequence decodes. -/
theorem exists_decodes (bytes : List UInt8) : ∃ cs held, Decodes bytes cs held := by
  induction hn : bytes.length using Nat.strong_induction_on generalizing bytes with
  | _ n ih =>
    cases hf : Front.of bytes with
    | char c rest =>
      obtain ⟨cs, held, hd⟩ :=
        ih rest.length (hn ▸ (Front.length_rest_lt bytes).1 c rest hf) rest rfl
      exact ⟨c :: cs, held, .char hf hd⟩
    | invalid rest =>
      obtain ⟨cs, held, hd⟩ :=
        ih rest.length (hn ▸ (Front.length_rest_lt bytes).2 rest hf) rest rfl
      exact ⟨replacement :: cs, held, .invalid hf hd⟩
    | truncated => exact ⟨[], bytes, .truncated hf⟩

variable {bytes : List UInt8} {cs : List Char} {held : List UInt8}

lemma held_truncated (h : Decodes bytes cs held) : Front.of held = .truncated := by
  induction h with
  | char _ _ ih => exact ih
  | invalid _ _ ih => exact ih
  | truncated hf => exact hf

lemma held_suffix (h : Decodes bytes cs held) : held <:+ bytes := by
  induction h with
  | char hf _ ih => exact ih.trans ((Front.rest_suffix _).1 _ _ hf)
  | invalid hf _ ih => exact ih.trans ((Front.rest_suffix _).2 _ hf)
  | truncated _ => exact List.suffix_refl _

lemma decodeLoop_eq (h : Decodes bytes cs held) :
    ∀ fuel acc, bytes.length < fuel → decodeLoop fuel bytes acc = (acc.reverse ++ cs, held) := by
  induction h with
  | @char bytes rest c cs held hf _ ih =>
    intro fuel acc hlen
    obtain ⟨f, rfl⟩ : ∃ f, fuel = f + 1 := ⟨fuel - 1, by omega⟩
    -- a character was read, so the bytes are not empty
    cases bytes with
    | nil => simp [Front.of] at hf
    | cons b t =>
      have hrest := (Front.length_rest_lt (b :: t)).1 c rest hf
      simp only [decodeLoop, hf, ih f (c :: acc) (by simp at hlen hrest ⊢; omega),
        List.reverse_cons, List.append_assoc, List.singleton_append]
  | @invalid bytes rest cs held hf _ ih =>
    intro fuel acc hlen
    obtain ⟨f, rfl⟩ : ∃ f, fuel = f + 1 := ⟨fuel - 1, by omega⟩
    cases bytes with
    | nil => simp [Front.of] at hf
    | cons b t =>
      have hrest := (Front.length_rest_lt (b :: t)).2 rest hf
      simp only [decodeLoop, hf, ih f (replacement :: acc) (by simp at hlen hrest ⊢; omega),
        List.reverse_cons, List.append_assoc, List.singleton_append]
  | @truncated bytes hf =>
    intro fuel acc hlen
    obtain ⟨f, rfl⟩ : ∃ f, fuel = f + 1 := ⟨fuel - 1, by omega⟩
    cases bytes with
    | nil => simp [decodeLoop]
    | cons b t => simp [decodeLoop, hf]

lemma decodeHolding_eq (h : Decodes bytes cs held) :
    decodeHolding bytes = (String.ofList cs, held) := by
  simp [decodeHolding, h.decodeLoop_eq _ [] (Nat.lt_succ_self _)]

lemma decodeLossy_eq (h : Decodes bytes cs held) :
    decodeLossy bytes = String.ofList cs ++ decodeLossy held := by
  have hheld : Decodes held [] held := .truncated h.held_truncated
  simp only [decodeLossy, h.decodeHolding_eq, hheld.decodeHolding_eq, String.ofList_nil]
  cases held.isEmpty
  · simp only [Bool.false_eq_true, if_false, String.push_eq_append, String.empty_append]
  · simp only [if_true, String.append_empty]

/-- **Decoding splits where the held bytes start:** bytes after them are decoded together with
them, and what came before stays as it was. -/
theorem append {ys : List UInt8} {cs' : List Char} {held' : List UInt8}
    (h : Decodes bytes cs held) (h' : Decodes (held ++ ys) cs' held') :
    Decodes (bytes ++ ys) (cs ++ cs') held' := by
  induction h with
  | char hf _ ih =>
    exact .char (by rw [Front.of_append ys _ (by simp [hf]), hf]; rfl) (ih h')
  | invalid hf _ ih =>
    exact .invalid (by rw [Front.of_append ys _ (by simp [hf]), hf]; rfl) (ih h')
  | truncated _ => exact h'

end Decodes

/-! ### Decoding a whole sequence -/

@[simp] lemma decodeLossy_nil : decodeLossy [] = "" := Decodes.nil.decodeLossy_eq

lemma decodeLossy_of_char {xs rest : List UInt8} {c : Char} (h : Front.of xs = .char c rest) :
    decodeLossy xs = String.ofList [c] ++ decodeLossy rest := by
  obtain ⟨cs, held, hd⟩ := Decodes.exists_decodes rest
  rw [(Decodes.char h hd).decodeLossy_eq, hd.decodeLossy_eq, ← String.append_assoc,
    ← String.ofList_append, List.singleton_append]

lemma decodeLossy_of_invalid {xs rest : List UInt8} (h : Front.of xs = .invalid rest) :
    decodeLossy xs = String.ofList [replacement] ++ decodeLossy rest := by
  obtain ⟨cs, held, hd⟩ := Decodes.exists_decodes rest
  rw [(Decodes.invalid h hd).decodeLossy_eq, hd.decodeLossy_eq, ← String.append_assoc,
    ← String.ofList_append, List.singleton_append]

lemma decodeLossy_of_truncated {xs : List UInt8} (h : Front.of xs = .truncated) (hne : xs ≠ []) :
    decodeLossy xs = String.ofList [replacement] := by
  have hd : Decodes xs [] xs := .truncated h
  have hne' : xs.isEmpty = false := List.isEmpty_eq_false_iff.mpr hne
  simp only [decodeLossy, hd.decodeHolding_eq, hne', Bool.false_eq_true, if_false,
    String.ofList_nil, String.push_eq_append, String.empty_append, String.singleton_eq_ofList]

/-- **What comes before the held bytes, decoded alone, gives the same characters.** An ill-formed
part that needed the first held byte to be seen as one is cut short alone, and so is still one
replacement character. -/
theorem Decodes.lossy_front {bytes : List UInt8} {cs : List Char} {held : List UInt8}
    (h : Decodes bytes cs held) : ∀ front, bytes = front ++ held →
      decodeLossy front = String.ofList cs := by
  induction h with
  | @char bytes rest c cs held hf hd ih =>
    intro front hbytes
    -- the bytes are the character's own bytes `p`, then the rest, which ends in the held bytes
    obtain ⟨m, hm⟩ := hd.held_suffix
    obtain ⟨p, hp⟩ := (Front.rest_suffix bytes).1 c rest hf
    have hfront : front = p ++ m := by
      rw [← hp, ← hm, ← List.append_assoc] at hbytes
      exact (List.append_cancel_right hbytes).symm
    have hchar : Front.of (p ++ m) = .char c m := by
      have hp' := Front.of_char_drop p rest c (hp ▸ hf)
      rw [Front.of_append m p (by simp [hp']), hp']
      rfl
    rw [hfront, decodeLossy_of_char hchar, ih m hm.symm, ← String.ofList_append,
      List.singleton_append]
  | @invalid bytes rest cs held hf hd ih =>
    intro front hbytes
    obtain ⟨m, hm⟩ := hd.held_suffix
    obtain ⟨p, hp⟩ := (Front.rest_suffix bytes).2 rest hf
    have hfront : front = p ++ m := by
      rw [← hp, ← hm, ← List.append_assoc] at hbytes
      exact (List.append_cancel_right hbytes).symm
    obtain ⟨halone, hagain⟩ := Front.of_invalid_drop p rest (hp ▸ hf)
    rw [hfront]
    cases m with
    | nil =>
      -- the ill-formed part is the last thing before the held bytes
      have hcs : cs = [] := by
        simpa [eq_comm (a := "")] using ih [] hm.symm
      have hpne : p ≠ [] := by
        rintro rfl
        rw [List.nil_append] at hp
        subst hp
        have := (Front.length_rest_lt rest).2 rest hf
        omega
      subst hcs
      rcases halone with hinv | htrunc
      · rw [List.append_nil, decodeLossy_of_invalid hinv, decodeLossy_nil, String.append_empty]
      · rw [List.append_nil, decodeLossy_of_truncated htrunc hpne]
    | cons x t =>
      -- the rest starts with the same byte, so the part is ill-formed before it again
      have hinv := hagain (x :: t) (by rw [← hm]; rfl)
      rw [decodeLossy_of_invalid hinv, ih (x :: t) hm.symm, ← String.ofList_append,
        List.singleton_append]
  | @truncated bytes _ =>
    intro front hbytes
    have hnil : front = [] := by simpa using hbytes
    simp [hnil]


/-! ### The stream decoder -/

/-- A call on a stream decoder. -/
inductive DecoderCall where
  /-- The next chunk of the stream. -/
  | decode (chunk : List UInt8)
  /-- The end of the stream. -/
  | finish

/-- Makes one call, adding the text it returns to the text so far. -/
def Utf8Decoder.call (s : Utf8Decoder × String) : DecoderCall → Utf8Decoder × String
  | .decode chunk => ((s.1.decode chunk).1, s.2 ++ (s.1.decode chunk).2)
  | .finish => (s.1.finish.1, s.2 ++ s.1.finish.2)

/-- Makes calls in order. -/
def Utf8Decoder.calls (s : Utf8Decoder × String) (cs : List DecoderCall) :
    Utf8Decoder × String :=
  cs.foldl Utf8Decoder.call s

/-- The bytes fed, in segments: those that `finish` has closed, and the open one. -/
def DecoderCall.feed (seg : List (List UInt8) × List UInt8) :
    DecoderCall → List (List UInt8) × List UInt8
  | .decode chunk => (seg.1, seg.2 ++ chunk)
  | .finish => (seg.1 ++ [seg.2], [])

/-- The segments of the bytes of a sequence of calls. -/
def DecoderCall.segments (cs : List DecoderCall) : List (List UInt8) × List UInt8 :=
  cs.foldl DecoderCall.feed ([], [])

@[simp] lemma calls_nil (s : Utf8Decoder × String) : Utf8Decoder.calls s [] = s := rfl

@[simp] lemma calls_cons (s : Utf8Decoder × String) (c : DecoderCall) (cs : List DecoderCall) :
    Utf8Decoder.calls s (c :: cs) = Utf8Decoder.calls (Utf8Decoder.call s c) cs := rfl

/-- How a decoder and its text stand to the bytes fed: the text is that of the closed segments,
each decoded at once, then the characters of the open segment, which decodes to them with the
decoder's held bytes at its end. -/
def StreamState (s : Utf8Decoder × String) (seg : List (List UInt8) × List UInt8) : Prop :=
  ∃ cs, Decodes seg.2 cs s.1.pending ∧
    s.2 = String.join (seg.1.map decodeLossy) ++ String.ofList cs

lemma streamState_start : StreamState ({}, "") ([], []) :=
  ⟨[], Decodes.nil, by simp [String.join_nil]⟩

/-- **One call keeps the state.** A chunk is decoded after the held bytes, which is where the
open segment splits; `finish` closes the segment with the held bytes as one replacement. -/
lemma StreamState.call {s : Utf8Decoder × String} {seg : List (List UInt8) × List UInt8}
    (h : StreamState s seg) (c : DecoderCall) :
    StreamState (Utf8Decoder.call s c) (DecoderCall.feed seg c) := by
  obtain ⟨cs, hd, htext⟩ := h
  cases c with
  | decode chunk =>
    obtain ⟨ts, held, hd'⟩ := Decodes.exists_decodes (s.1.pending ++ chunk)
    have hdecode : s.1.decode chunk = (⟨held⟩, String.ofList ts) := by
      simp [Utf8Decoder.decode, hd'.decodeHolding_eq]
    refine ⟨cs ++ ts, ?_, ?_⟩
    · simpa [Utf8Decoder.call, DecoderCall.feed, hdecode] using hd.append hd'
    · simp only [Utf8Decoder.call, DecoderCall.feed, hdecode, htext, String.ofList_append,
        String.append_assoc]
  | finish =>
    refine ⟨[], Decodes.nil, ?_⟩
    simp only [Utf8Decoder.call, DecoderCall.feed, Utf8Decoder.finish, htext, List.map_append,
      List.map_singleton, String.join_append, String.join_cons, String.join_nil,
      String.append_empty, String.ofList_nil, hd.decodeLossy_eq, String.append_assoc]

lemma StreamState.calls {s : Utf8Decoder × String} {seg : List (List UInt8) × List UInt8}
    (h : StreamState s seg) (cs : List DecoderCall) :
    StreamState (Utf8Decoder.calls s cs) (cs.foldl DecoderCall.feed seg) := by
  induction cs generalizing s seg with
  | nil => exact h
  | cons c cs ih => exact ih (h.call c)

lemma feed_decodes (chunks : List (List UInt8)) (seg : List (List UInt8) × List UInt8) :
    (chunks.map DecoderCall.decode).foldl DecoderCall.feed seg = (seg.1, seg.2 ++ chunks.flatten) := by
  induction chunks generalizing seg with
  | nil => simp
  | cons chunk chunks ih => simp [ih, DecoderCall.feed]

lemma StreamState.text {s : Utf8Decoder × String} {seg : List (List UInt8) × List UInt8}
    (h : StreamState s seg) :
    s.2 ++ s.1.finish.2 = String.join ((seg.1 ++ [seg.2]).map decodeLossy) ∧
      ∃ fed, seg.2 = fed ++ s.1.pending ∧
        s.2 = String.join (seg.1.map decodeLossy) ++ decodeLossy fed := by
  obtain ⟨cs, hd, htext⟩ := h
  constructor
  · simp only [Utf8Decoder.finish, htext, List.map_append, List.map_singleton,
      String.join_append, String.join_cons, String.join_nil, String.append_empty,
      hd.decodeLossy_eq, String.append_assoc]
  · obtain ⟨fed, hfed⟩ := hd.held_suffix
    exact ⟨fed, hfed.symm, by rw [htext, hd.lossy_front fed hfed.symm]⟩

/-- **Decoding a stream in chunks gives the text of decoding it at once.** For chunks given to a
fresh decoder and then `finish`, the text is that of all their bytes. For any sequence of calls,
the text, with what a last `finish` would add, is that of each segment between two calls of
`finish` decoded at once; and the text since the last `finish` is that of the bytes fed since,
without the held bytes at their end. -/
theorem stream_decodes_lossy :
    (∀ chunks : List (List UInt8),
      (Utf8Decoder.calls ({}, "") (chunks.map .decode ++ [.finish])).2 =
        decodeLossy chunks.flatten) ∧
    ∀ calls : List DecoderCall,
      (Utf8Decoder.calls ({}, "") calls).2 ++ (Utf8Decoder.calls ({}, "") calls).1.finish.2 =
          String.join (((DecoderCall.segments calls).1 ++ [(DecoderCall.segments calls).2]).map
            decodeLossy) ∧
        ∃ fed, (DecoderCall.segments calls).2 = fed ++ (Utf8Decoder.calls ({}, "") calls).1.pending ∧
          (Utf8Decoder.calls ({}, "") calls).2 =
            String.join ((DecoderCall.segments calls).1.map decodeLossy) ++ decodeLossy fed := by
  refine ⟨fun chunks => ?_, fun calls => (streamState_start.calls calls).text⟩
  -- the chunks fill one segment, which `finish` closes, leaving a fresh decoder
  have hseg : (chunks.map DecoderCall.decode ++ [DecoderCall.finish]).foldl DecoderCall.feed ([], []) =
      ([chunks.flatten], []) := by
    rw [List.foldl_append, feed_decodes]
    rfl
  have hfresh : (Utf8Decoder.calls ({}, "") (chunks.map .decode ++ [DecoderCall.finish])).1 = {} := by
    simp [Utf8Decoder.calls, List.foldl_append, Utf8Decoder.call, Utf8Decoder.finish]
  have htext := (streamState_start.calls (chunks.map .decode ++ [DecoderCall.finish])).text.1
  rw [hseg, hfresh] at htext
  simpa [Utf8Decoder.finish, String.join_cons, String.join_nil] using htext

example : (Utf8Decoder.calls ({}, "") [.decode [0xE2, 0x82], .decode [0xAC], .finish]).2 = "€" := by
  decide

end SimRegress.Text
