import Mathlib

/-!
The order of binary64 floats as an order of integers.

The bits of a float unpack to a canonical value (`canonical_unpack`): a zero, an infinity, NaN,
or a finite value in normal or subnormal position, which packing gives back unchanged
(`unpack_pack_of_canonical`); an infinity has one bit pattern for each sign
(`eq_infinity_of_isInf`). On canonical values the comparison of the floating-point model is
the comparison of their values counted in the least subnormal, `ticks`, with infinities just
beyond every finite value (`compare_eq_ticks`). So `<` and `≤` on floats that are no NaN are
`<` and `≤` on integers (`lt_iff_value`, `le_iff_value`), and they are transitive and total
there.
-/

namespace SimRegress.Binary64

open Float.Model Float.Model.UnpackedFloat

/-! ### Canonical values and packing -/

/-- The unpacked values that the bits of a binary64 float unpack to: a finite value has a
mantissa of at most 53 bits and an exponent from `-1074` to `971`, and is normal (a 53-bit
mantissa) unless its exponent is the least one. -/
def Canonical : UnpackedFloat → Prop
  | .finite _ m e _ => m < 2 ^ 53 ∧ -1074 ≤ e ∧ e ≤ 971 ∧ (2 ^ 52 ≤ m ∨ e = -1074)
  | _ => True

lemma exponentBias_binary64 : Format.binary64.exponentBias = 1023 := by decide

lemma sign_packComponents (s : Sign) (E : BitVec 11) (M : BitVec 52) :
    Sign.ofBitVec (unpackSign (packComponents Format.binary64 s E M)) = s := by
  cases s <;> simp [Sign.ofBitVec, Sign.toBitVec, ← BitVec.toNat_inj]

lemma unpack_packComponents (s : Sign) (E : BitVec 11) (M : BitVec 52) :
    UnpackedFloat.unpack Format.binary64 (packComponents Format.binary64 s E M) =
      if E.toNat = 2047 then (if M.toNat = 0 then .infinity s else .notANumber)
      else if E.toNat = 0 then
        (if hM : M.toNat = 0 then .zero s else .finite s M.toNat (-1074) (by omega))
      else .finite s (2 ^ 52 + M.toNat) (E.toNat - 1075) (by positivity) := by
  have h1 : (1#1).toNat = 1 := rfl
  have hM := M.isLt
  simp only [UnpackedFloat.unpack, unpackMantissa_packComponents, unpackExponent_packComponents,
    sign_packComponents, exponentBias_binary64]
  by_cases htop : E.toNat = 2047
  · have : E = -1#11 := BitVec.eq_of_toNat_eq (by simpa using htop)
    subst this
    by_cases hz : M.toNat = 0
    · have : M = 0#52 := BitVec.eq_of_toNat_eq (by simpa using hz)
      simp [this]
    · have : M ≠ 0#52 := fun h => hz (by simp [h])
      simp [this, hz]
  · have hE' : E ≠ -1#11 := fun h => htop (by simp [h])
    rw [if_neg hE', if_neg htop]
    by_cases hz : E.toNat = 0
    · have : E = 0#11 := BitVec.eq_of_toNat_eq (by simpa using hz)
      subst this
      by_cases hm : M.toNat = 0
      · have : M = 0#52 := BitVec.eq_of_toNat_eq (by simpa using hm)
        simp [this]
      · have : M ≠ 0#52 := fun h => hm (by simp [h])
        simp [this, hm]
    · have : E ≠ 0#11 := fun h => hz (by simp [h])
      have hmant : (1#1 ++ M).toNat = 2 ^ 52 + M.toNat := by
        rw [BitVec.toNat_append, ← Nat.shiftLeft_add_eq_or_of_lt hM, Nat.shiftLeft_eq, h1]
        omega
      simp only [if_neg this, if_neg hz, hmant, finite.injEq, true_and]
      omega

lemma log2_eq_52 {m : Nat} (h1 : 2 ^ 52 ≤ m) (h2 : m < 2 ^ 53) : m.log2 = 52 := by
  have hm : m ≠ 0 := by omega
  have := (Nat.le_log2 hm).2 h1
  have := (Nat.log2_lt hm).2 h2
  omega

lemma unpack_pack_finite (s : Sign) (m : Nat) (e : Int) (hm : 0 < m) (h1 : m < 2 ^ 53)
    (h2 : -1074 ≤ e) (h3 : 2 ^ 52 ≤ m ∨ e = -1074) :
    UnpackedFloat.unpack Format.binary64 (UnpackedFloat.pack Format.binary64 (.finite s m e hm)) =
      if e ≤ 971 then .finite s m e hm else .infinity s := by
  have hbias : (e + (Format.binary64.exponentBias : Int) + (52 : Nat)) = e + 1075 := by
    rw [exponentBias_binary64]; push_cast; ring
  simp only [UnpackedFloat.pack, hbias]
  by_cases hover : e ≤ 971
  · rw [if_pos hover, if_neg (by show ¬ 2 ^ 11 ≤ (e + 1075).toNat + 1; omega)]
    by_cases hn : 2 ^ 52 ≤ m
    · rw [if_pos (by rw [log2_eq_52 hn h1]; rfl), unpack_packComponents]
      have hE : (BitVec.ofNat 11 (e + 1075).toNat).toNat = (e + 1075).toNat := by
        simp only [BitVec.toNat_ofNat]; omega
      simp only [hE, BitVec.toNat_ofNat]
      rw [if_neg (by omega), if_neg (by omega)]
      simp only [finite.injEq, true_and]
      constructor <;> omega
    · have he : e = -1074 := by omega
      have hlog : m.log2 + 1 ≠ Format.binary64.mantissaBits := by
        have := (Nat.log2_lt (n := m) (k := 52) (by omega)).2 (by omega)
        show m.log2 + 1 ≠ 53
        omega
      rw [if_neg hlog, unpack_packComponents]
      subst he
      simp only [BitVec.toNat_ofNat, Nat.zero_mod, Nat.reducePow, ↓reduceIte]
      rw [dif_neg (by omega), if_neg (by decide)]
      simp only [finite.injEq, true_and, and_true]
      omega
  · rw [if_neg hover, if_pos (by show 2 ^ 11 ≤ (e + 1075).toNat + 1; omega)]
    simp [packedInfinity, unpack_packComponents]

lemma canonical_unpack (b : BitVec 64) : Canonical (UnpackedFloat.unpack Format.binary64 b) := by
  have hM := (@unpackMantissa Format.binary64 b).isLt
  have hE := (@unpackExponent Format.binary64 b).isLt
  simp only [Format.binary64] at hM hE
  simp only [UnpackedFloat.unpack, exponentBias_binary64]
  split
  · split <;> trivial
  rename_i htop
  have htop' : (@unpackExponent Format.binary64 b).toNat ≠ 2047 := fun h =>
    htop (BitVec.eq_of_toNat_eq (by simpa using h))
  split
  · rename_i hzero
    have hzero' : (@unpackExponent Format.binary64 b).toNat = 0 := by simp [hzero]
    split
    · trivial
    · simp only [Canonical, hzero']
      omega
  · rename_i hzero
    have hzero' : (@unpackExponent Format.binary64 b).toNat ≠ 0 := fun h =>
      hzero (BitVec.eq_of_toNat_eq (by simpa using h))
    simp only [Canonical, BitVec.toNat_append]
    rw [← Nat.shiftLeft_add_eq_or_of_lt hM]
    have h1 : (1#1).toNat = 1 := rfl
    simp only [Nat.shiftLeft_eq, h1]
    omega

lemma unpack_pack_of_canonical {u : UnpackedFloat} (hu : Canonical u) :
    unpack Format.binary64 (pack Format.binary64 u) = u := by
  cases u with
  | notANumber => rfl
  | infinity s => cases s <;> rfl
  | zero s => cases s <;> rfl
  | finite s m e hm =>
    obtain ⟨h1, h2, h3, h4⟩ := hu
    rw [unpack_pack_finite s m e hm h1 h2 h4, if_pos h3]

lemma isNaN_unpack_pack (u : UnpackedFloat) :
    (unpack Format.binary64 (pack Format.binary64 u)).isNaN = u.isNaN := by
  cases u with
  | notANumber => rfl
  | infinity s => cases s <;> rfl
  | zero s => cases s <;> rfl
  | finite s m e hm =>
    simp only [UnpackedFloat.pack]
    split
    · cases s <;> rfl
    · rename_i hb
      split
      · rw [unpack_packComponents, if_neg]
        · split
          · split <;> rfl
          · rfl
        · simp only [BitVec.toNat_ofNat]; simp at hb; omega
      · rw [unpack_packComponents, if_neg (by decide)]
        simp only [show (0#11).toNat = 0 from rfl, if_true]
        split <;> rfl

lemma packComponents_unpack (b : BitVec 64) :
    packComponents Format.binary64 (Sign.ofBitVec (@unpackSign Format.binary64 b))
      (@unpackExponent Format.binary64 b) (@unpackMantissa Format.binary64 b) = b := by
  apply BitVec.eq_of_getLsbD_eq
  intro i hi
  have hi' : i < 64 := hi
  simp only [packComponents, unpackSign, unpackExponent, unpackMantissa]
  simp
  rw [BitVec.getLsbD_append, BitVec.getLsbD_append]
  simp only [BitVec.getLsbD_extractLsb]
  -- the mantissa, the exponent and the sign bit each give back their own bits of the word
  split_ifs with h1 h2
  · simp [h1]
  · simp only [h2, decide_true, Bool.true_and]
    rw [show 52 + (i - (51 - 0 + 1)) = i by omega]
  · simp only [show i = 63 by omega]
    rfl

lemma eq_packedInfinity_of_unpack {b : BitVec 64} {s : Sign}
    (h : UnpackedFloat.unpack Format.binary64 b = .infinity s) : b = packedInfinity Format.binary64 s := by
  rw [UnpackedFloat.unpack] at h
  split at h
  · rename_i hexp
    split at h
    · rename_i hmant
      cases h
      exact (packComponents_unpack b).symm.trans (by rw [hexp, hmant]; rfl)
    · cases h
  · split at h
    · split at h <;> cases h
    · cases h

/-! ### Values -/

/-- The value of an unpacked float in ticks of `2 ^ -1074`, the least positive subnormal;
an infinity counts as `± 2 ^ 2098`, beyond every finite binary64 value, and NaN as zero. -/
def ticks : UnpackedFloat → Int
  | .infinity s => s.apply (2 ^ 2098)
  | .notANumber => 0
  | .zero _ => 0
  | .finite s m e _ => s.apply (m * 2 ^ (e + 1074).toNat)

lemma magnitude_lt {m m' : Nat} {e e' : Int} (hm : m < 2 ^ 53) (he : -1074 ≤ e)
    (hm' : 2 ^ 52 ≤ m' ∨ e' = -1074) (h : e < e') :
    (m : Int) * 2 ^ (e + 1074).toNat < m' * 2 ^ (e' + 1074).toNat := by
  have hn : (2 : Int) ^ 52 ≤ m' := by exact_mod_cast hm'.resolve_right (by omega)
  calc (m : Int) * 2 ^ (e + 1074).toNat < 2 ^ 53 * 2 ^ (e + 1074).toNat := by
        gcongr; exact_mod_cast hm
    _ = 2 ^ 52 * 2 ^ ((e + 1074).toNat + 1) := by ring
    _ ≤ m' * 2 ^ (e' + 1074).toNat :=
        mul_le_mul hn (pow_le_pow_right₀ (by norm_num) (by omega)) (by positivity) (by positivity)

lemma magnitude_lt_top {m : Nat} {e : Int} (hm : m < 2 ^ 53) (he : -1074 ≤ e) (he' : e ≤ 971) :
    (m : Int) * 2 ^ (e + 1074).toNat < 2 ^ 2098 :=
  calc (m : Int) * 2 ^ (e + 1074).toNat ≤ m * 2 ^ 2045 := by
        gcongr
        · norm_num
        · omega
    _ < 2 ^ 53 * 2 ^ 2045 := by gcongr; exact_mod_cast hm
    _ = 2 ^ 2098 := by rw [← pow_add]

lemma compare_magnitude {m m' : Nat} {e e' : Int} (hm : m < 2 ^ 53) (he : -1074 ≤ e)
    (hn : 2 ^ 52 ≤ m ∨ e = -1074) (hm' : m' < 2 ^ 53) (he' : -1074 ≤ e')
    (hn' : 2 ^ 52 ≤ m' ∨ e' = -1074) :
    (compare e e').then (compare m m') =
      compare ((m : Int) * 2 ^ (e + 1074).toNat) ((m' : Int) * 2 ^ (e' + 1074).toNat) := by
  rcases lt_trichotomy e e' with h | rfl | h
  · rw [compare_lt_iff_lt.2 h, compare_lt_iff_lt.2 (magnitude_lt hm he hn' h)]
    rfl
  · rw [compare_eq_iff_eq.2 rfl]
    rcases lt_trichotomy m m' with h | rfl | h
    · rw [compare_lt_iff_lt.2 h, compare_lt_iff_lt.2 (by gcongr)]
      rfl
    · rw [compare_eq_iff_eq.2 rfl, compare_eq_iff_eq.2 rfl]
      rfl
    · rw [compare_gt_iff_gt.2 h, compare_gt_iff_gt.2 (by gcongr)]
      rfl
  · rw [compare_gt_iff_gt.2 h, compare_gt_iff_gt.2 (magnitude_lt hm' he' hn h)]
    rfl

lemma magnitude_pos {m : Nat} (hm : 0 < m) (e : Int) : 0 < (m : Int) * 2 ^ (e + 1074).toNat := by
  positivity

lemma compare_neg_neg (x y : Int) : compare (-x) (-y) = (compare x y).swap := by
  rcases lt_trichotomy x y with h | rfl | h
  · rw [compare_gt_iff_gt.2 (neg_lt_neg h), compare_lt_iff_lt.2 h]
    rfl
  · rw [compare_eq_iff_eq.2 rfl, compare_eq_iff_eq.2 rfl]
    rfl
  · rw [compare_lt_iff_lt.2 (neg_lt_neg h), compare_gt_iff_gt.2 h]
    rfl

lemma some_eq_some_compare {o : Ordering} {x y : Int} (h : o.Compares x y) :
    some o = some (compare x y) := by
  rw [(compare_iff x y).2 h]

lemma compare_eq_ticks {a b : UnpackedFloat} (ha : Canonical a) (hb : Canonical b)
    (han : a.isNaN = false) (hbn : b.isNaN = false) :
    a.compare b = some (compare (ticks a) (ticks b)) := by
  -- the kinds and signs decide, except between two finite values, whose magnitudes are compared
  -- lexicographically on exponent and mantissa
  cases a with
  | notANumber => simp [UnpackedFloat.isNaN] at han
  | infinity s =>
    cases b with
    | notANumber => simp [UnpackedFloat.isNaN] at hbn
    | infinity s' =>
      cases s <;> cases s' <;> simp only [UnpackedFloat.compare, ticks, Sign.apply] <;>
        exact some_eq_some_compare (by simp [Ordering.Compares, compare])
    | zero s' =>
      cases s <;> simp only [UnpackedFloat.compare, ticks, Sign.apply] <;>
        exact some_eq_some_compare (by simp only [Ordering.Compares]; omega)
    | finite s' m e hm =>
      obtain ⟨h1, h2, h3, -⟩ := hb
      have := magnitude_lt_top h1 h2 h3
      have := magnitude_pos hm e
      cases s <;> cases s' <;> simp only [UnpackedFloat.compare, ticks, Sign.apply] <;>
        exact some_eq_some_compare (by simp only [Ordering.Compares]; omega)
  | zero s =>
    cases b with
    | notANumber => simp [UnpackedFloat.isNaN] at hbn
    | infinity s' =>
      cases s' <;> simp only [UnpackedFloat.compare, ticks, Sign.apply] <;>
        exact some_eq_some_compare (by simp only [Ordering.Compares]; omega)
    | zero s' => simp [UnpackedFloat.compare, ticks]
    | finite s' m e hm =>
      have := magnitude_pos hm e
      cases s' <;> simp only [UnpackedFloat.compare, ticks, Sign.apply] <;>
        exact some_eq_some_compare (by simp only [Ordering.Compares]; omega)
  | finite s m e hm =>
    obtain ⟨h1, h2, h3, h4⟩ := ha
    have := magnitude_lt_top h1 h2 h3
    have := magnitude_pos hm e
    cases b with
    | notANumber => simp [UnpackedFloat.isNaN] at hbn
    | infinity s' =>
      cases s <;> cases s' <;> simp only [UnpackedFloat.compare, ticks, Sign.apply] <;>
        exact some_eq_some_compare (by simp only [Ordering.Compares]; omega)
    | zero s' =>
      cases s <;> simp only [UnpackedFloat.compare, ticks, Sign.apply] <;>
        exact some_eq_some_compare (by simp only [Ordering.Compares]; omega)
    | finite s' m' e' hm' =>
      obtain ⟨h1', h2', h3', h4'⟩ := hb
      have := magnitude_lt_top h1' h2' h3'
      have := magnitude_pos hm' e'
      have hc := compare_magnitude h1 h2 h4 h1' h2' h4'
      cases s <;> cases s' <;> simp only [UnpackedFloat.compare, ticks, Sign.apply, Option.some_inj]
      · rw [hc, compare_neg_neg]
      · exact (compare_iff _ _).2 (by simp only [Ordering.Compares]; omega) |>.symm
      · exact (compare_iff _ _).2 (by simp only [Ordering.Compares]; omega) |>.symm
      · exact hc

lemma lt_iff_ticks {a b : UnpackedFloat} (ha : Canonical a) (hb : Canonical b) :
    a.lt b = true ↔ a.isNaN = false ∧ b.isNaN = false ∧ ticks a < ticks b := by
  by_cases han : a.isNaN = true
  · cases a <;> simp_all [UnpackedFloat.isNaN, UnpackedFloat.lt, UnpackedFloat.compare]
  by_cases hbn : b.isNaN = true
  · cases b <;> cases a <;> simp_all [UnpackedFloat.isNaN, UnpackedFloat.lt, UnpackedFloat.compare]
  simp only [Bool.not_eq_true] at han hbn
  simp only [UnpackedFloat.lt, compare_eq_ticks ha hb han hbn, han, hbn, true_and]
  simp [compare_lt_iff_lt]

lemma le_iff_ticks {a b : UnpackedFloat} (ha : Canonical a) (hb : Canonical b) :
    a.le b = true ↔ a.isNaN = false ∧ b.isNaN = false ∧ ticks a ≤ ticks b := by
  by_cases han : a.isNaN = true
  · cases a <;> simp_all [UnpackedFloat.isNaN, UnpackedFloat.le, UnpackedFloat.compare]
  by_cases hbn : b.isNaN = true
  · cases b <;> cases a <;> simp_all [UnpackedFloat.isNaN, UnpackedFloat.le, UnpackedFloat.compare]
  simp only [Bool.not_eq_true] at han hbn
  simp only [UnpackedFloat.le, compare_eq_ticks ha hb han hbn, han, hbn, true_and,
    Option.any_some, ← compare_le_iff_le]
  cases compare (ticks a) (ticks b) <;> decide

lemma nonneg_cases {a : UnpackedFloat} (ha : Canonical a) (han : a.isNaN = false)
    (h0 : 0 ≤ ticks a) :
    (∃ s, a = .zero s) ∨ (∃ m e hm, a = .finite .positive m e hm) ∨ a = .infinity .positive := by
  cases a with
  | notANumber => simp [UnpackedFloat.isNaN] at han
  | zero s => exact .inl ⟨s, rfl⟩
  | infinity s =>
    cases s
    · simp only [ticks, Sign.apply] at h0
      have : (0 : Int) < 2 ^ 2098 := by positivity
      omega
    · exact .inr (.inr rfl)
  | finite s m e hm =>
    cases s
    · have := magnitude_pos hm e
      simp only [ticks, Sign.apply] at h0
      omega
    · exact .inr (.inl ⟨m, e, hm, rfl⟩)

lemma ticks_lt_top {a : UnpackedFloat} (ha : Canonical a) (haf : a.isFinite = true) :
    ticks a < 2 ^ 2098 := by
  cases a with
  | notANumber => simp [UnpackedFloat.isFinite] at haf
  | infinity s => simp [UnpackedFloat.isFinite] at haf
  | zero s => show (0 : Int) < 2 ^ 2098; positivity
  | finite s m e hm =>
    obtain ⟨h1, h2, h3, -⟩ := ha
    have := magnitude_lt_top h1 h2 h3
    have := magnitude_pos hm e
    cases s <;> simp only [ticks, Sign.apply] <;> omega

/-! ### Floats -/

/-- The value of a float in ticks of `2 ^ -1074`, infinities as `± 2 ^ 2098`. -/
def value (x : Float) : Int := ticks x.toModel.unpack

lemma canonical_toModel (x : Float) : Canonical x.toModel.unpack := canonical_unpack _

lemma lt_iff_value {x y : Float} :
    x < y ↔ x.isNaN = false ∧ y.isNaN = false ∧ value x < value y := by
  change Float.lt x y = true ↔ _
  simp only [Float.lt, decide_eq_true_eq]
  exact lt_iff_ticks (canonical_toModel x) (canonical_toModel y)

lemma le_iff_value {x y : Float} :
    x ≤ y ↔ x.isNaN = false ∧ y.isNaN = false ∧ value x ≤ value y := by
  change Float.le x y = true ↔ _
  simp only [Float.le, decide_eq_true_eq]
  exact le_iff_ticks (canonical_toModel x) (canonical_toModel y)

@[simp] lemma value_zero : value 0.0 = 0 := rfl

lemma eq_infinity_of_isInf {x : Float} (h : x.isInf = true) :
    ∃ s, x = Float.ofModel (Float.Model.pack (.infinity s)) := by
  obtain ⟨⟨bits, hv⟩⟩ := x
  have hinf : (UnpackedFloat.unpack Format.binary64 bits.toBitVec).isInf = true := h
  generalize hu : UnpackedFloat.unpack Format.binary64 bits.toBitVec = u at hinf
  cases u with
  | infinity s =>
    refine ⟨s, ?_⟩
    have hb := eq_packedInfinity_of_unpack hu
    simp only [Float.ofModel.injEq, Float.Model.pack, Float.Model.mk.injEq]
    rw [UnpackedFloat.pack, ← hb]
  | _ => simp [UnpackedFloat.isInf] at hinf

lemma isNaN_eq_false_of_lt_left {x y : Float} (h : x < y) : x.isNaN = false :=
  (lt_iff_value.1 h).1

lemma isNaN_eq_false_of_lt_right {x y : Float} (h : x < y) : y.isNaN = false :=
  (lt_iff_value.1 h).2.1

lemma isNaN_eq_false_of_le_right {x y : Float} (h : x ≤ y) : y.isNaN = false :=
  (le_iff_value.1 h).2.1

lemma le_refl_of_isNaN_eq_false {x : Float} (h : x.isNaN = false) : x ≤ x :=
  le_iff_value.2 ⟨h, h, le_rfl⟩

lemma Float.le_of_lt {x y : Float} (h : x < y) : x ≤ y := by
  obtain ⟨hx, hy, hxy⟩ := lt_iff_value.1 h
  exact le_iff_value.2 ⟨hx, hy, hxy.le⟩

lemma Float.le_trans {x y z : Float} (hxy : x ≤ y) (hyz : y ≤ z) : x ≤ z := by
  obtain ⟨hx, -, hxy⟩ := le_iff_value.1 hxy
  obtain ⟨-, hz, hyz⟩ := le_iff_value.1 hyz
  exact le_iff_value.2 ⟨hx, hz, hxy.trans hyz⟩

lemma Float.lt_of_le_of_lt {x y z : Float} (hxy : x ≤ y) (hyz : y < z) : x < z := by
  obtain ⟨hx, -, hxy⟩ := le_iff_value.1 hxy
  obtain ⟨-, hz, hyz⟩ := lt_iff_value.1 hyz
  exact lt_iff_value.2 ⟨hx, hz, hxy.trans_lt hyz⟩

lemma Float.le_of_not_lt {x y : Float} (hx : x.isNaN = false) (hy : y.isNaN = false) (h : ¬ x < y) :
    y ≤ x :=
  le_iff_value.2 ⟨hy, hx, not_lt.1 fun hlt => h (lt_iff_value.2 ⟨hx, hy, hlt⟩)⟩

lemma Float.beq_iff_value {x y : Float} :
    (x == y) = true ↔ x.isNaN = false ∧ y.isNaN = false ∧ value x = value y := by
  change (x.toModel.unpack.compare y.toModel.unpack == some .eq) = true ↔ _
  by_cases hxn : x.isNaN = false
  · by_cases hyn : y.isNaN = false
    · rw [compare_eq_ticks (canonical_toModel x) (canonical_toModel y) hxn hyn]
      simp only [beq_iff_eq, Option.some.injEq, compare_eq_iff_eq, hxn, hyn, true_and, value]
    -- a NaN compares with nothing
    · have hy : y.toModel.unpack = .notANumber := by
        revert hyn
        change ¬ y.toModel.unpack.isNaN = false → _
        cases y.toModel.unpack <;> simp [UnpackedFloat.isNaN]
      have hnone : x.toModel.unpack.compare .notANumber = none := by
        cases x.toModel.unpack <;> rfl
      rw [hy, hnone]
      exact ⟨fun h => absurd h (by decide), fun h => absurd h.2.1 hyn⟩
  · have hx : x.toModel.unpack = .notANumber := by
      revert hxn
      change ¬ x.toModel.unpack.isNaN = false → _
      cases x.toModel.unpack <;> simp [UnpackedFloat.isNaN]
    have hnone : UnpackedFloat.compare .notANumber y.toModel.unpack = none := rfl
    rw [hx, hnone]
    exact ⟨fun h => absurd h (by decide), fun h => absurd h.1 hxn⟩

/-! ### Magnitudes -/

lemma canonical_abs {u : UnpackedFloat} (hu : Canonical u) : Canonical u.abs := by
  cases u with
  | finite s m e hm => exact hu
  | _ => trivial

lemma abs_of_isFinite {x : Float} (hx : x.isFinite = true) : x.abs.isFinite = true ∧ 0.0 ≤ x.abs := by
  have habs : x.abs.toModel.unpack = x.toModel.unpack.abs :=
    unpack_pack_of_canonical (canonical_abs (canonical_toModel x))
  change x.toModel.unpack.isFinite = true at hx
  refine ⟨?_, le_iff_value.2 ⟨rfl, ?_, ?_⟩⟩
  · change x.abs.toModel.unpack.isFinite = true
    rw [habs]
    cases h : x.toModel.unpack <;> simp_all [UnpackedFloat.isFinite, UnpackedFloat.abs]
  · change x.abs.toModel.unpack.isNaN = false
    rw [habs]
    cases h : x.toModel.unpack <;> simp_all [UnpackedFloat.isFinite, UnpackedFloat.abs, UnpackedFloat.isNaN]
  · rw [value_zero, value, habs]
    cases h : x.toModel.unpack with
    | finite s m e hm => exact (magnitude_pos hm e).le
    | _ => simp [UnpackedFloat.abs, ticks, Sign.apply]

end SimRegress.Binary64
