import Mathlib
import SimRegress.Proofs.Text.Stream

/-!
# What a stream decoder holds back

The front of a byte sequence that the decoder reads as a character is exactly the UTF-8 encoding
of that character (`Front.eq_encode_of_char`), each width checked against the encoding's
arithmetic. A front that the end of the bytes cuts short can be completed by continuation bytes
into a character (`Front.exists_completion`), so it begins the encoding of that character and is
shorter than it (`EncodingStart`).

A call of `decode` holds back the cut-short start that decoding leaves at the end, whatever it
held before, and `finish` holds back nothing; so after every sequence of calls the decoder holds
the start of a character's encoding, at most three bytes (`decoder_holds_encoding_start`). Every
step of the decoding loop takes at least one byte, so with more fuel than bytes the loop ends by
itself, and more fuel changes nothing.
-/

namespace SimRegress.Text

/-! ### Characters and their encodings -/

lemma val_toNat_ofNat {v : Nat} (h : v.isValidChar) : (Char.ofNat v).val.toNat = v := by
  simp [Char.ofNat, h, Char.ofNatAux]

lemma uint8_ofNat_eq {n : Nat} {b : UInt8} (h : n = b.toNat) : UInt8.ofNat n = b := by
  subst h
  exact UInt8.ofNat_toNat

/-! The bytes of a lead byte and its continuation bytes spell a code point whose encoding is
those bytes, one lemma per width; the ranges of the second byte exclude overlong forms,
surrogates and code points past `U+10FFFF`. -/

lemma utf8EncodeChar_two {b c1 : UInt8} (hb : 0xC2 ≤ b.toNat ∧ b.toNat ≤ 0xDF)
    (hc1 : 0x80 ≤ c1.toNat ∧ c1.toNat ≤ 0xBF) :
    String.utf8EncodeChar (Char.ofNat ((b.toNat % 32) * 64 + c1.toNat % 64)) = [b, c1] := by
  have hv : ((b.toNat % 32) * 64 + c1.toNat % 64).isValidChar := by
    simp only [Nat.isValidChar]
    omega
  simp only [String.utf8EncodeChar, val_toNat_ofNat hv]
  rw [if_neg (by omega), if_pos (by omega)]
  simp only [List.cons.injEq, and_true]
  exact ⟨uint8_ofNat_eq (by omega), uint8_ofNat_eq (by omega)⟩

lemma utf8EncodeChar_three {b c1 c2 : UInt8} (hb : 0xE0 ≤ b.toNat ∧ b.toNat ≤ 0xEF)
    (hc1 : 0x80 ≤ c1.toNat ∧ c1.toNat ≤ 0xBF) (hlo : b.toNat = 0xE0 → 0xA0 ≤ c1.toNat)
    (hhi : b.toNat = 0xED → c1.toNat ≤ 0x9F) (hc2 : 0x80 ≤ c2.toNat ∧ c2.toNat ≤ 0xBF) :
    String.utf8EncodeChar
        (Char.ofNat (((b.toNat % 16) * 64 + c1.toNat % 64) * 64 + c2.toNat % 64)) =
      [b, c1, c2] := by
  have hv : ((((b.toNat % 16) * 64 + c1.toNat % 64) * 64 + c2.toNat % 64)).isValidChar := by
    simp only [Nat.isValidChar]
    omega
  simp only [String.utf8EncodeChar, val_toNat_ofNat hv]
  rw [if_neg (by omega), if_neg (by omega), if_pos (by omega)]
  simp only [List.cons.injEq, and_true]
  exact ⟨uint8_ofNat_eq (by omega), uint8_ofNat_eq (by omega), uint8_ofNat_eq (by omega)⟩

lemma utf8EncodeChar_four {b c1 c2 c3 : UInt8} (hb : 0xF0 ≤ b.toNat ∧ b.toNat ≤ 0xF4)
    (hc1 : 0x80 ≤ c1.toNat ∧ c1.toNat ≤ 0xBF) (hlo : b.toNat = 0xF0 → 0x90 ≤ c1.toNat)
    (hhi : b.toNat = 0xF4 → c1.toNat ≤ 0x8F) (hc2 : 0x80 ≤ c2.toNat ∧ c2.toNat ≤ 0xBF)
    (hc3 : 0x80 ≤ c3.toNat ∧ c3.toNat ≤ 0xBF) :
    String.utf8EncodeChar (Char.ofNat
      ((((b.toNat % 8) * 64 + c1.toNat % 64) * 64 + c2.toNat % 64) * 64 +
      c3.toNat % 64)) = [b, c1, c2, c3] := by
  have hv : ((((b.toNat % 8) * 64 + c1.toNat % 64) * 64 + c2.toNat % 64) * 64 +
      c3.toNat % 64).isValidChar := by
    simp only [Nat.isValidChar]
    omega
  simp only [String.utf8EncodeChar, val_toNat_ofNat hv]
  rw [if_neg (by omega), if_neg (by omega), if_neg (by omega)]
  simp only [List.cons.injEq, and_true]
  exact ⟨uint8_ofNat_eq (by omega), uint8_ofNat_eq (by omega), uint8_ofNat_eq (by omega),
    uint8_ofNat_eq (by omega)⟩

lemma leadShape_spec {b : UInt8} {k lead : Nat} {lo hi : UInt8}
    (h : leadShape b = some (k, lead, lo, hi)) :
    (k = 1 ∧ lead = b.toNat % 32 ∧ (0xC2 ≤ b.toNat ∧ b.toNat ≤ 0xDF)) ∨
      (k = 2 ∧ lead = b.toNat % 16 ∧ (0xE0 ≤ b.toNat ∧ b.toNat ≤ 0xEF) ∧
        (b.toNat = 0xE0 → 0xA0 ≤ lo.toNat) ∧ (b.toNat = 0xED → hi.toNat ≤ 0x9F)) ∨
      (k = 3 ∧ lead = b.toNat % 8 ∧ (0xF0 ≤ b.toNat ∧ b.toNat ≤ 0xF4) ∧
        (b.toNat = 0xF0 → 0x90 ≤ lo.toNat) ∧ (b.toNat = 0xF4 → hi.toNat ≤ 0x8F)) := by
  dsimp only [leadShape] at h
  simp only [ite_eq_iff, Option.some.injEq, Prod.mk.injEq, reduceCtorEq] at h
  -- peel off the branches of the lead byte one by one, keeping the test of the one taken
  repeat' rcases h with ⟨hb, rfl, rfl, rfl, rfl⟩ | ⟨-, h⟩
  all_goals simp only [UInt8.reduceToNat, true_and]; omega

lemma leadShape_range {b : UInt8} {k lead : Nat} {lo hi : UInt8}
    (h : leadShape b = some (k, lead, lo, hi)) :
    1 ≤ k ∧ 0x80 ≤ lo.toNat ∧ lo.toNat ≤ hi.toNat ∧ hi.toNat ≤ 0xBF := by
  dsimp only [leadShape] at h
  simp only [ite_eq_iff, Option.some.injEq, Prod.mk.injEq, reduceCtorEq] at h
  repeat' rcases h with ⟨-, rfl, -, rfl, rfl⟩ | ⟨-, h⟩
  all_goals decide

lemma continuation_char {m acc : Nat} {xs r : List UInt8} {c : Char}
    (h : continuation m acc xs = .char c r) :
    ∃ ds, xs = ds ++ r ∧ ds.length = m ∧ (∀ d ∈ ds, 0x80 ≤ d.toNat ∧ d.toNat ≤ 0xBF) ∧
      c = Char.ofNat (ds.foldl (fun a d => a * 64 + d.toNat % 64) acc) := by
  induction m generalizing acc xs with
  | zero =>
    simp only [continuation, Front.char.injEq] at h
    obtain ⟨rfl, rfl⟩ := h
    exact ⟨[], rfl, rfl, by simp, rfl⟩
  | succ m ih =>
    cases xs with
    | nil => simp [continuation] at h
    | cons x xs =>
      simp only [continuation] at h
      split at h
      · obtain ⟨ds, rfl, hlen, hds, rfl⟩ := ih h
        refine ⟨x :: ds, rfl, by simp [hlen], ?_, rfl⟩
        intro d hd
        rcases List.mem_cons.mp hd with rfl | hd
        · assumption
        · exact hds d hd
      · cases h

lemma continuation_truncated {m acc : Nat} {xs : List UInt8}
    (h : continuation m acc xs = .truncated) :
    xs.length < m ∧ ∀ d ∈ xs, 0x80 ≤ d.toNat ∧ d.toNat ≤ 0xBF := by
  induction m generalizing acc xs with
  | zero => simp [continuation] at h
  | succ m ih =>
    cases xs with
    | nil => simp
    | cons x xs =>
      simp only [continuation] at h
      split at h
      · obtain ⟨hlen, hds⟩ := ih h
        refine ⟨by simp; omega, ?_⟩
        intro d hd
        rcases List.mem_cons.mp hd with rfl | hd
        · assumption
        · exact hds d hd
      · cases h

lemma continuation_complete {m acc : Nat} {xs : List UInt8}
    (hx : ∀ d ∈ xs, 0x80 ≤ d.toNat ∧ d.toNat ≤ 0xBF) (hlen : xs.length = m) :
    ∃ c, continuation m acc xs = .char c [] := by
  induction m generalizing acc xs with
  | zero =>
    rw [List.length_eq_zero_iff.mp hlen]
    exact ⟨_, rfl⟩
  | succ m ih =>
    cases xs with
    | nil => simp at hlen
    | cons x xs =>
      simp only [continuation, if_pos (hx x List.mem_cons_self)]
      exact ih (fun d hd => hx d (List.mem_cons_of_mem _ hd)) (by simpa using hlen)

lemma continuation_of_mem_replicate {d : UInt8} {n : Nat}
    (hd : d ∈ List.replicate n (0x80 : UInt8)) :
    0x80 ≤ d.toNat ∧ d.toNat ≤ 0xBF := by
  rw [List.eq_of_mem_replicate hd]
  decide

/-- **What the decoder reads as a character is the character's UTF-8 encoding.** -/
theorem Front.eq_encode_of_char {bs r : List UInt8} {c : Char} (h : Front.of bs = .char c r) :
    bs = String.utf8EncodeChar c ++ r := by
  cases bs with
  | nil => simp [Front.of] at h
  | cons b rest =>
    by_cases hb : b.toNat < 0x80
    · rw [Front.of_ascii hb, Front.char.injEq] at h
      obtain ⟨rfl, rfl⟩ := h
      have hv : b.toNat.isValidChar := by
        simp only [Nat.isValidChar]
        omega
      simp only [String.utf8EncodeChar, val_toNat_ofNat hv, if_pos (show b.toNat ≤ 0x7f by omega),
        List.singleton_append, UInt8.ofNat_toNat]
    cases hl : leadShape b with
    | none =>
      rw [Front.of_badLead hb hl] at h
      cases h
    | some s =>
      obtain ⟨k, lead, lo, hi⟩ := s
      cases rest with
      | nil =>
        rw [Front.of_lead_nil hb hl] at h
        cases h
      | cons c1 rest' =>
        rw [Front.of_lead_cons hb hl] at h
        split at h
        · rename_i hrange
          obtain ⟨ds, rfl, hlen, hds, rfl⟩ := continuation_char h
          have hc1 : lo.toNat ≤ c1.toNat ∧ c1.toNat ≤ hi.toNat :=
            ⟨UInt8.le_iff_toNat_le.mp hrange.1, UInt8.le_iff_toNat_le.mp hrange.2⟩
          have hbounds := leadShape_range hl
          rcases leadShape_spec hl with ⟨rfl, rfl, hlead⟩ | ⟨rfl, rfl, hlead, hlo, hhi⟩ |
            ⟨rfl, rfl, hlead, hlo, hhi⟩
          · -- two bytes
            rw [List.length_eq_zero_iff.mp hlen, List.foldl_nil,
              utf8EncodeChar_two hlead (by omega)]
            rfl
          · -- three bytes
            obtain ⟨c2, rfl⟩ := List.length_eq_one_iff.mp hlen
            rw [List.foldl_cons, List.foldl_nil, utf8EncodeChar_three hlead (by omega) (by omega)
              (by omega) (hds c2 List.mem_cons_self)]
            rfl
          · -- four bytes
            obtain ⟨c2, c3, rfl⟩ := List.length_eq_two.mp hlen
            rw [List.foldl_cons, List.foldl_cons, List.foldl_nil,
              utf8EncodeChar_four hlead (by omega) (by omega) (by omega) (hds c2 (by simp))
                (hds c3 (by simp))]
            rfl
        · cases h

/-! ### Cut-short fronts -/

/-- Bytes that begin the UTF-8 encoding of a character and stop before its end; no bytes at all
are such a beginning. -/
def EncodingStart (bytes : List UInt8) : Prop :=
  ∃ c : Char, bytes <+: String.utf8EncodeChar c ∧ bytes.length < (String.utf8EncodeChar c).length

lemma encodingStart_nil : EncodingStart [] :=
  ⟨'a', List.nil_prefix, List.length_pos_iff.mpr String.utf8EncodeChar_ne_nil⟩

lemma EncodingStart.length_le {bytes : List UInt8} (h : EncodingStart bytes) :
    bytes.length ≤ 3 := by
  obtain ⟨c, -, hlen⟩ := h
  have := c.utf8Size_le_four
  rw [String.length_utf8EncodeChar] at hlen
  omega

/-- **A front cut short by the end of the bytes is completed into a character by more bytes:**
after a lead byte alone, the least byte its range allows, then continuation bytes. -/
theorem Front.exists_completion {held : List UInt8} (h : Front.of held = .truncated)
    (hne : held ≠ []) : ∃ ys c, ys ≠ [] ∧ Front.of (held ++ ys) = .char c [] := by
  cases held with
  | nil => exact absurd rfl hne
  | cons b rest =>
    by_cases hb : b.toNat < 0x80
    · rw [Front.of_ascii hb] at h
      cases h
    cases hl : leadShape b with
    | none =>
      rw [Front.of_badLead hb hl] at h
      cases h
    | some s =>
      obtain ⟨k, lead, lo, hi⟩ := s
      have hshape := leadShape_range hl
      cases rest with
      | nil =>
        obtain ⟨c, hc⟩ := @continuation_complete (k - 1) (lead * 64 + lo.toNat % 64) _
          (fun _ => continuation_of_mem_replicate) List.length_replicate
        refine ⟨lo :: List.replicate (k - 1) 0x80, c, List.cons_ne_nil _ _, ?_⟩
        rw [List.singleton_append, Front.of_lead_cons hb hl,
          if_pos ⟨UInt8.le_refl lo, UInt8.le_iff_toNat_le.mpr hshape.2.2.1⟩, hc]
      | cons c1 rest' =>
        rw [Front.of_lead_cons hb hl] at h
        split at h
        · rename_i hrange
          -- the continuation bytes so far are in range and too few: pad them
          obtain ⟨hlen, hds⟩ := continuation_truncated h
          have hfill : ∀ d ∈ rest' ++ List.replicate (k - 1 - rest'.length) (0x80 : UInt8),
              0x80 ≤ d.toNat ∧ d.toNat ≤ 0xBF := by
            intro d hd
            rcases List.mem_append.mp hd with hd | hd
            · exact hds d hd
            · exact continuation_of_mem_replicate hd
          obtain ⟨c, hc⟩ := @continuation_complete (k - 1) (lead * 64 + c1.toNat % 64) _ hfill
            (by simp only [List.length_append, List.length_replicate]; omega)
          refine ⟨List.replicate (k - 1 - rest'.length) 0x80, c, ?_, ?_⟩
          · simp only [ne_eq, List.replicate_eq_nil_iff]
            omega
          · rw [List.cons_append, List.cons_append, Front.of_lead_cons hb hl, if_pos hrange, hc]
        · cases h

/-- A front cut short by the end of the bytes begins the encoding of a character. -/
theorem encodingStart_of_truncated {held : List UInt8} (h : Front.of held = .truncated) :
    EncodingStart held := by
  by_cases hne : held = []
  · rw [hne]
    exact encodingStart_nil
  obtain ⟨ys, c, hys, hc⟩ := Front.exists_completion h hne
  have henc : held ++ ys = String.utf8EncodeChar c := by
    simpa using Front.eq_encode_of_char hc
  refine ⟨c, ⟨ys, henc⟩, ?_⟩
  rw [← henc, List.length_append]
  have := List.length_pos_iff.mpr hys
  omega

/-! ### The decoder -/

lemma encodingStart_decode (d : Utf8Decoder) (chunk : List UInt8) :
    EncodingStart (d.decode chunk).1.pending := by
  obtain ⟨cs, held, hd⟩ := Decodes.exists_decodes (d.pending ++ chunk)
  have hdecode : (d.decode chunk).1.pending = held := by
    simp [Utf8Decoder.decode, hd.decodeHolding_eq]
  rw [hdecode]
  exact encodingStart_of_truncated hd.held_truncated

lemma encodingStart_call (s : Utf8Decoder × String) (c : DecoderCall) :
    EncodingStart (Utf8Decoder.call s c).1.pending := by
  cases c with
  | decode chunk => exact encodingStart_decode s.1 chunk
  | finish => exact encodingStart_nil

lemma encodingStart_calls {s : Utf8Decoder × String} (cs : List DecoderCall)
    (h : EncodingStart s.1.pending) : EncodingStart (Utf8Decoder.calls s cs).1.pending := by
  induction cs generalizing s with
  | nil => exact h
  | cons c cs ih => exact ih (encodingStart_call s c)

lemma decodeLoop_fuel (bytes : List UInt8) (acc : List Char) {fuel : Nat}
    (h : bytes.length < fuel) :
    decodeLoop fuel bytes acc = decodeLoop (bytes.length + 1) bytes acc := by
  obtain ⟨cs, held, hd⟩ := Decodes.exists_decodes bytes
  rw [hd.decodeLoop_eq fuel acc h, hd.decodeLoop_eq _ acc (Nat.lt_succ_self _)]

/-- **A stream decoder holds back the start of a character's encoding, at most three bytes.**
After a chunk, whatever the decoder held before, it holds a cut-short start of the encoding of
some character, or nothing; `finish` leaves it holding nothing; so from a fresh decoder, after
every sequence of calls, the bytes held are such a start and at most three. Each step of decoding
takes at least one byte, so the decoding loop ends before its fuel runs out. -/
theorem decoder_holds_encoding_start :
    (∀ (d : Utf8Decoder) (chunk : List UInt8), EncodingStart (d.decode chunk).1.pending) ∧
    (∀ d : Utf8Decoder, d.finish.1.pending = []) ∧
    (∀ calls : List DecoderCall,
      EncodingStart (Utf8Decoder.calls ({}, "") calls).1.pending ∧
        (Utf8Decoder.calls ({}, "") calls).1.pending.length ≤ 3) ∧
    (∀ bytes : List UInt8,
      (∀ c rest, Front.of bytes = .char c rest → rest.length < bytes.length) ∧
        ∀ rest, Front.of bytes = .invalid rest → rest.length < bytes.length) ∧
    ∀ (bytes : List UInt8) (acc : List Char) (fuel : Nat), bytes.length < fuel →
      decodeLoop fuel bytes acc = decodeLoop (bytes.length + 1) bytes acc := by
  refine ⟨encodingStart_decode, fun _ => rfl, fun calls => ?_, Front.length_rest_lt,
    fun bytes acc _ h => decodeLoop_fuel bytes acc h⟩
  have hs := encodingStart_calls calls (s := ({}, "")) encodingStart_nil
  exact ⟨hs, hs.length_le⟩

example : (Utf8Decoder.decode {} [0x41, 0xE2, 0x82]).1.pending = [0xE2, 0x82] := by
  decide

end SimRegress.Text
