import Mathlib
import SimRegress.Proofs.Text.Stream

/-!
# Strict decoding reads back every encoding

The decoder reads the UTF-8 encoding of a character, whatever follows it, as that character
(`Front.of_encode`): one lemma per width, each with the ranges of the lead byte and the byte
after it, mirrors the lemmas that go from bytes to the character they spell. So strict decoding
gives back every text from its encoding (`decodeStrict?_encode`), and two texts with the same
encoding are the same text.
-/

namespace SimRegress.Text

lemma leadShape_of_three {b : UInt8} (h : 0xE0 ≤ b.toNat ∧ b.toNat ≤ 0xEF) :
    leadShape b = some (2, b.toNat % 16, if b.toNat = 0xE0 then 0xA0 else 0x80,
      if b.toNat = 0xED then 0x9F else 0xBF) := by
  dsimp only [leadShape]
  split_ifs <;> first | rfl | omega

lemma leadShape_of_four {b : UInt8} (h : 0xF0 ≤ b.toNat ∧ b.toNat ≤ 0xF4) :
    leadShape b = some (3, b.toNat % 8, if b.toNat = 0xF0 then 0x90 else 0x80,
      if b.toNat = 0xF4 then 0x8F else 0xBF) := by
  dsimp only [leadShape]
  split_ifs <;> first | rfl | omega

/-! The decoder reads a lead byte and the continuation bytes its range allows as the code point
they spell, one lemma per width. -/

lemma Front.of_two {b c1 : UInt8} (hb : 0xC2 ≤ b.toNat ∧ b.toNat ≤ 0xDF)
    (hc1 : 0x80 ≤ c1.toNat ∧ c1.toNat ≤ 0xBF) (r : List UInt8) :
    Front.of (b :: c1 :: r) = .char (Char.ofNat ((b.toNat % 32) * 64 + c1.toNat % 64)) r := by
  have hl : leadShape b = some (1, b.toNat % 32, 0x80, 0xBF) := by
    simp only [leadShape, if_pos hb]
  rw [Front.of_lead_cons (by omega) hl,
    if_pos (by simp only [UInt8.le_iff_toNat_le, UInt8.reduceToNat]; omega)]
  rfl

lemma Front.of_three {b c1 c2 : UInt8} (hb : 0xE0 ≤ b.toNat ∧ b.toNat ≤ 0xEF)
    (hc1 : 0x80 ≤ c1.toNat ∧ c1.toNat ≤ 0xBF) (hlo : b.toNat = 0xE0 → 0xA0 ≤ c1.toNat)
    (hhi : b.toNat = 0xED → c1.toNat ≤ 0x9F) (hc2 : 0x80 ≤ c2.toNat ∧ c2.toNat ≤ 0xBF)
    (r : List UInt8) :
    Front.of (b :: c1 :: c2 :: r) =
      .char (Char.ofNat (((b.toNat % 16) * 64 + c1.toNat % 64) * 64 + c2.toNat % 64)) r := by
  have hrange : (if b.toNat = 0xE0 then (0xA0 : UInt8) else 0x80) ≤ c1 ∧
      c1 ≤ if b.toNat = 0xED then (0x9F : UInt8) else 0xBF := by
    simp only [UInt8.le_iff_toNat_le]
    split_ifs <;> simp only [UInt8.reduceToNat] <;> omega
  rw [Front.of_lead_cons (by omega) (leadShape_of_three hb), if_pos hrange]
  simp [continuation, hc2]

lemma Front.of_four {b c1 c2 c3 : UInt8} (hb : 0xF0 ≤ b.toNat ∧ b.toNat ≤ 0xF4)
    (hc1 : 0x80 ≤ c1.toNat ∧ c1.toNat ≤ 0xBF) (hlo : b.toNat = 0xF0 → 0x90 ≤ c1.toNat)
    (hhi : b.toNat = 0xF4 → c1.toNat ≤ 0x8F) (hc2 : 0x80 ≤ c2.toNat ∧ c2.toNat ≤ 0xBF)
    (hc3 : 0x80 ≤ c3.toNat ∧ c3.toNat ≤ 0xBF) (r : List UInt8) :
    Front.of (b :: c1 :: c2 :: c3 :: r) = .char (Char.ofNat
      ((((b.toNat % 8) * 64 + c1.toNat % 64) * 64 + c2.toNat % 64) * 64 + c3.toNat % 64)) r := by
  have hrange : (if b.toNat = 0xF0 then (0x90 : UInt8) else 0x80) ≤ c1 ∧
      c1 ≤ if b.toNat = 0xF4 then (0x8F : UInt8) else 0xBF := by
    simp only [UInt8.le_iff_toNat_le]
    split_ifs <;> simp only [UInt8.reduceToNat] <;> omega
  rw [Front.of_lead_cons (by omega) (leadShape_of_four hb), if_pos hrange]
  simp [continuation, hc2, hc3]

lemma char_ofNat_eq {c : Char} {n : Nat} (h : n = c.toNat) : Char.ofNat n = c :=
  h ▸ Char.ofNat_toNat c

/-- **The decoder reads the encoding of a character as that character**, whatever follows. -/
theorem Front.of_encode (c : Char) (r : List UInt8) :
    Front.of (String.utf8EncodeChar c ++ r) = .char c r := by
  have hv : c.toNat.isValidChar := c.valid
  simp only [Nat.isValidChar] at hv
  have hval : c.val.toNat = c.toNat := rfl
  unfold String.utf8EncodeChar
  simp only [hval]
  -- one case per width; the ranges of the bytes are read off the code point, and a surrogate,
  -- which would make a second byte of `ED` too large, is no character
  by_cases h1 : c.toNat ≤ 0x7f
  · rw [if_pos h1, List.singleton_append, Front.of_ascii (by simp; omega), char_ofNat_eq]
    simp
    omega
  rw [if_neg h1]
  by_cases h2 : c.toNat ≤ 0x7ff
  · rw [if_pos h2, List.cons_append, List.singleton_append,
      Front.of_two (by simp; omega) (by simp; omega), char_ofNat_eq]
    simp
    omega
  rw [if_neg h2]
  by_cases h3 : c.toNat ≤ 0xffff
  · rw [if_pos h3, List.cons_append, List.cons_append, List.singleton_append,
      Front.of_three (by simp; omega) (by simp; omega) (by simp; omega) (by simp; omega)
        (by simp; omega), char_ofNat_eq]
    simp
    omega
  rw [if_neg h3, List.cons_append, List.cons_append, List.cons_append, List.singleton_append,
    Front.of_four (by simp; omega) (by simp; omega) (by simp; omega) (by simp; omega)
      (by simp; omega) (by simp; omega), char_ofNat_eq]
  simp
  omega

lemma decodeStrictLoop_encode (cs : List Char) :
    ∀ (acc : List Char) (fuel : Nat), (cs.flatMap String.utf8EncodeChar).length < fuel →
      decodeStrictLoop fuel (cs.flatMap String.utf8EncodeChar) acc = some (acc.reverse ++ cs) := by
  induction cs with
  | nil =>
    intro acc fuel hfuel
    obtain ⟨f, rfl⟩ : ∃ f, fuel = f + 1 := ⟨fuel - 1, by simp at hfuel; omega⟩
    simp [decodeStrictLoop]
  | cons c cs ih =>
    intro acc fuel hfuel
    obtain ⟨f, rfl⟩ : ∃ f, fuel = f + 1 := ⟨fuel - 1, by omega⟩
    have hne : String.utf8EncodeChar c ++ cs.flatMap String.utf8EncodeChar ≠ [] := by simp
    rw [List.flatMap_cons] at hfuel ⊢
    rw [decodeStrictLoop.eq_3 _ _ _ hne, Front.of_encode]
    dsimp only
    have hlen := List.length_pos_iff.mpr (String.utf8EncodeChar_ne_nil (c := c))
    rw [ih (c :: acc) f (by rw [List.length_append] at hfuel; omega)]
    simp

/-- **Strict decoding gives back every text from its encoding.** -/
theorem decodeStrict?_encode (s : String) :
    decodeStrict? (s.toList.flatMap String.utf8EncodeChar) = some s := by
  rw [decodeStrict?, decodeStrictLoop_encode s.toList [] _ (Nat.lt_succ_self _)]
  simp

lemma eq_of_encode_eq {s s' : String}
    (h : s.toList.flatMap String.utf8EncodeChar = s'.toList.flatMap String.utf8EncodeChar) :
    s = s' := by
  have hs := decodeStrict?_encode s
  rw [h, decodeStrict?_encode s'] at hs
  exact Option.some.inj hs.symm

end SimRegress.Text
