import Mathlib
import SimRegress.Proofs.Float.Order

/-!
Rounding to binary64, and why multiplication is monotone.

Rounding a positive exact value `m * 2 ^ e` to binary64 shifts its mantissa right, rounds to
nearest with ties to even and packs it. In integers: shifting right by `s` and rounding is
`rne x s` (`roundedMantissa_shiftRight`); the packed value is `roundedTicks` of the exact value
counted in units of `2 ^ -2148`, capped at the value of infinity (`ticks_round_exact`).
`roundedTicks` is monotone, also from one binade to the next and into the subnormals
(`roundedTicks_mono`). A product of two canonical values is exact before rounding, so a
product with a non-negative finite factor is monotone in the other, non-negative factor
(`mul_mono_left`, and `Float.mul_le_mul_right` on floats), including the cases of zeros and
infinities.
-/

namespace SimRegress.Binary64

open Float.Model Float.Model.UnpackedFloat

/-! ### Rounding to nearest, ties to even -/

/-- `x / 2 ^ s` rounded to the nearest integer, ties to even. -/
def rne (x s : Nat) : Nat :=
  x / 2 ^ s +
    if 2 ^ s < 2 * (x % 2 ^ s) ∨ (2 * (x % 2 ^ s) = 2 ^ s ∧ x / 2 ^ s % 2 = 1) then 1 else 0

lemma rne_zero (x : Nat) : rne x 0 = x := by
  simp [rne, Nat.mod_one]

lemma rne_mul_pow (x s j : Nat) : rne (x * 2 ^ j) (s + j) = rne x s := by
  have hp : 0 < 2 ^ j := by positivity
  have hdiv : x * 2 ^ j / 2 ^ (s + j) = x / 2 ^ s := by
    rw [pow_add, Nat.mul_div_mul_right _ _ hp]
  have hmod : x * 2 ^ j % 2 ^ (s + j) = x % 2 ^ s * 2 ^ j := by
    rw [pow_add, Nat.mul_mod_mul_right]
  unfold rne
  rw [hdiv, hmod]
  congr 1
  have h1 : 2 ^ (s + j) < 2 * (x % 2 ^ s * 2 ^ j) ↔ 2 ^ s < 2 * (x % 2 ^ s) := by
    rw [pow_add, ← mul_assoc]
    exact Nat.mul_lt_mul_right hp
  have h2 : 2 * (x % 2 ^ s * 2 ^ j) = 2 ^ (s + j) ↔ 2 * (x % 2 ^ s) = 2 ^ s := by
    rw [pow_add, ← mul_assoc]
    exact Nat.mul_left_inj (by positivity)
  simp only [h1, h2]

lemma rne_pow_mul (c s : Nat) : rne (c * 2 ^ s) s = c := by
  simpa [rne_zero] using rne_mul_pow c 0 s

lemma rne_le (x s : Nat) : rne x s ≤ x / 2 ^ s + 1 := by
  unfold rne; split <;> omega

lemma le_rne (x s : Nat) : x / 2 ^ s ≤ rne x s := by
  unfold rne; omega

lemma rne_mono {x y : Nat} (h : x ≤ y) (s : Nat) : rne x s ≤ rne y s := by
  have hq : x / 2 ^ s ≤ y / 2 ^ s := Nat.div_le_div_right h
  rcases Nat.lt_or_eq_of_le hq with hlt | heq
  · calc rne x s ≤ x / 2 ^ s + 1 := rne_le x s
      _ ≤ y / 2 ^ s := hlt
      _ ≤ rne y s := le_rne y s
  · -- the same quotient: the remainders are ordered, and rounding up is monotone in them
    have hx := Nat.div_add_mod x (2 ^ s)
    have hy := Nat.div_add_mod y (2 ^ s)
    have hr : x % 2 ^ s ≤ y % 2 ^ s := by
      rw [heq] at hx
      omega
    unfold rne
    rw [heq]
    split_ifs <;> omega

lemma shiftRight_succ (em : ExtendedMantissa) (s : Nat) :
    em >>> (s + 1) = (em >>> s).shiftRightOne := rfl

lemma shiftRight_exact (x s : Nat) :
    ExtendedMantissa.ofMantissaAndAccuracy x .exact >>> (s + 1) =
      ⟨x / 2 ^ (s + 1), x / 2 ^ s % 2 != 0, x % 2 ^ s != 0⟩ := by
  induction s with
  | zero =>
    show ExtendedMantissa.shiftRightOne ⟨x, false, false⟩ = _
    simp [ExtendedMantissa.shiftRightOne, Nat.mod_one]
  | succ s ih =>
    rw [shiftRight_succ, ih]
    -- the bit shifted out joins the sticky bit
    have hmod := Nat.mod_pow_succ (b := 2) (x := x) (k := s)
    have hbit : x / 2 ^ s % 2 < 2 := Nat.mod_lt _ (by norm_num)
    simp only [ExtendedMantissa.shiftRightOne, ExtendedMantissa.mk.injEq, Nat.div_div_eq_div_mul,
      ← pow_succ, true_and]
    rw [hmod]
    cases h : x / 2 ^ s % 2 != 0 <;> cases h' : x % 2 ^ s != 0 <;> simp_all

lemma roundedMantissa_shiftRight (x s : Nat) :
    (ExtendedMantissa.ofMantissaAndAccuracy x .exact >>> s).roundedMantissa = rne x s := by
  cases s with
  | zero => rw [rne_zero]; rfl
  | succ s =>
    rw [shiftRight_exact]
    have hmod := Nat.mod_pow_succ (b := 2) (x := x) (k := s)
    have hlow : x % 2 ^ s < 2 ^ s := Nat.mod_lt _ (by positivity)
    have hbit : x / 2 ^ s % 2 < 2 := Nat.mod_lt _ (by norm_num)
    have hp : 2 ^ (s + 1) = 2 * 2 ^ s := by ring
    unfold rne
    rw [hmod, hp]
    -- the round bit `b` and the bits below it `l` decide the rounding
    generalize x / (2 * 2 ^ s) = q
    generalize x / 2 ^ s % 2 = b at hbit ⊢
    generalize x % 2 ^ s = l at hlow ⊢
    generalize 2 ^ s = P at hlow ⊢
    have hsticky : (l != 0) = decide (0 < l) := by
      cases l <;> simp
    rw [hsticky]
    interval_cases b <;> by_cases hl : 0 < l <;>
      simp [hl, ExtendedMantissa.roundedMantissa, ExtendedMantissa.accuracy,
        Accuracy.roundToNearestEven] <;> (try split_ifs) <;> omega

lemma rne_two_pow {a s : Nat} (h : s ≤ a) : rne (2 ^ a) s = 2 ^ (a - s) := by
  rw [← rne_pow_mul (2 ^ (a - s)) s, ← pow_add, Nat.sub_add_cancel h]

lemma rne_mul_le_of_le {N a s : Nat} (hN : N ≤ 2 ^ a) (hs : s ≤ a) :
    rne N s * 2 ^ s ≤ 2 ^ a := by
  calc rne N s * 2 ^ s ≤ rne (2 ^ a) s * 2 ^ s := Nat.mul_le_mul_right _ (rne_mono hN s)
    _ = 2 ^ a := by rw [rne_two_pow hs, ← pow_add, Nat.sub_add_cancel hs]

lemma le_rne_mul_of_le {N a s : Nat} (hN : 2 ^ a ≤ N) (hs : s ≤ a) :
    2 ^ a ≤ rne N s * 2 ^ s := by
  calc 2 ^ a = rne (2 ^ a) s * 2 ^ s := by rw [rne_two_pow hs, ← pow_add, Nat.sub_add_cancel hs]
    _ ≤ rne N s * 2 ^ s := Nat.mul_le_mul_right _ (rne_mono hN s)

/-! ### Rounding a positive value -/

lemma targetExponent_binary64 (m : Nat) (e : Int) :
    Format.binary64.targetExponent (totalExponent m e) = max (m.log2 + e - 52) (-1074) := by
  simp only [Format.targetExponent, totalExponent, Format.mantissaBits, Format.minExponent]
  norm_num
  omega

lemma shiftToTargetExponent_of_lt {r : Nat} {E : Int} (hr : r < 2 ^ 53) (hE : -1074 ≤ E) :
    shiftToTargetExponent Format.binary64 r E .exact = (⟨r, false, false⟩, E) := by
  have hlog : r.log2 ≤ 52 := by
    rcases Nat.eq_zero_or_pos r with rfl | hpos
    · simp
    · have := (Nat.log2_lt hpos.ne').2 hr; omega
  have hk : (Format.binary64.targetExponent (totalExponent r E) - E).toNat = 0 := by
    rw [targetExponent_binary64]; omega
  simp only [shiftToTargetExponent, shiftToExponent, hk]
  simp [ExtendedMantissa.ofMantissaAndAccuracy]
  rfl

lemma shiftToTargetExponent_carry {E : Int} (hE : -1074 ≤ E) :
    shiftToTargetExponent Format.binary64 (2 ^ 53) E .exact = (⟨2 ^ 52, false, false⟩, E + 1) := by
  have hk : (Format.binary64.targetExponent (totalExponent (2 ^ 53) E) - E).toNat = 1 := by
    rw [targetExponent_binary64, Nat.log2_two_pow]; omega
  simp only [shiftToTargetExponent, shiftToExponent, hk]
  rfl

lemma ticks_pack_finite {r : Nat} {E : Int} (hr : 0 < r) (hr' : r < 2 ^ 53) (hE : -1074 ≤ E)
    (hn : 2 ^ 52 ≤ r ∨ E = -1074) :
    ticks (unpack Format.binary64 (pack Format.binary64 (.finite .positive r E hr))) =
      min ((r : Int) * 2 ^ (E + 1074).toNat) (2 ^ 2098) := by
  rw [unpack_pack_finite _ _ _ hr hr' hE hn]
  split
  · rename_i h
    rw [min_eq_left (magnitude_lt_top hr' hE h).le]
    rfl
  · rename_i h
    have hr2 : (2 : Int) ^ 52 ≤ r := by exact_mod_cast hn.resolve_right (by omega)
    have hbig : (2 : Int) ^ 2098 ≤ r * 2 ^ (E + 1074).toNat :=
      calc (2 : Int) ^ 2098 = (2 : Int) ^ 52 * (2 : Int) ^ 2046 := by rw [← pow_add]
        _ ≤ (r : Int) * 2 ^ (E + 1074).toNat := by
          have h2 : (2 : Int) ^ 2046 ≤ 2 ^ (E + 1074).toNat :=
            pow_le_pow_right₀ (by norm_num) (by omega)
          exact mul_le_mul hr2 h2 (by positivity) (by positivity)
    rw [min_eq_right hbig]
    rfl

/-- **Rounding a positive exact value** `m * 2 ^ e` shifts it right by `k` places, rounds to
nearest even and packs it; the value is the rounded mantissa at exponent `e + k`, capped at
infinity. -/
lemma ticks_roundWithAccuracy {m : Nat} {e : Int} (k : Nat)
    (hk : k = (Format.binary64.targetExponent (totalExponent m e) - e).toNat)
    (hr : rne m k ≤ 2 ^ 53) (hE : -1074 ≤ e + k) (hn : 2 ^ 52 ≤ rne m k ∨ e + k = -1074) :
    ticks (unpack Format.binary64
        (pack Format.binary64 (roundWithAccuracy Format.binary64 .positive m e .exact))) =
      min ((rne m k : Int) * 2 ^ (e + k + 1074).toNat) (2 ^ 2098) := by
  have hfirst : shiftToTargetExponent Format.binary64 m e .exact =
      (ExtendedMantissa.ofMantissaAndAccuracy m .exact >>> k, e + k) := by
    rw [hk]; rfl
  simp only [roundWithAccuracy, hfirst, roundedMantissa_shiftRight]
  rcases Nat.lt_or_eq_of_le hr with hlt | heq
  · simp only [shiftToTargetExponent_of_lt hlt hE]
    split
    · rename_i h0
      have hz : unpack Format.binary64 (pack Format.binary64 (.zero .positive)) = .zero .positive :=
        rfl
      rw [hz, h0, Nat.cast_zero, zero_mul, min_eq_left (by positivity)]
      rfl
    · exact ticks_pack_finite _ hlt hE hn
  · simp only [heq, shiftToTargetExponent_carry hE]
    rw [dif_neg (by positivity), ticks_pack_finite _ (by norm_num) (by omega) (.inl le_rfl)]
    have hexp : (e + k + 1 + 1074).toNat = (e + k + 1074).toNat + 1 := by omega
    rw [hexp, pow_succ]
    push_cast
    ring_nf

lemma log2_mul_two_pow {m : Nat} (hm : 0 < m) (j : Nat) : (m * 2 ^ j).log2 = m.log2 + j := by
  have hlo := Nat.log2_self_le hm.ne'
  have hhi := Nat.lt_log2_self (n := m)
  rw [Nat.log2_eq_iff (by positivity)]
  constructor
  · rw [pow_add]; exact Nat.mul_le_mul_right _ hlo
  · rw [show m.log2 + j + 1 = m.log2 + 1 + j by omega, pow_add]
    exact Nat.mul_lt_mul_of_pos_right hhi (by positivity)

/-- The value, in ticks of `2 ^ -1074`, of `N * 2 ^ -2148` rounded to binary64 precision:
53 significant bits, and no bits below `2 ^ -1074`. Overflow is not applied. -/
def roundedTicks (N : Nat) : Nat :=
  rne N (max (N.log2 - 52) 1074) * 2 ^ (max (N.log2 - 52) 1074 - 1074)

/-- **Rounding a positive exact value** `m * 2 ^ e`, given that it needs no left shift, gives
the rounded value of `m * 2 ^ e`, capped at infinity. -/
lemma ticks_round_exact {m : Nat} {e : Int} (hm : 0 < m) (he : -2148 ≤ e)
    (hT : 52 ≤ m.log2 ∨ e ≤ -1074) :
    ticks (unpack Format.binary64
        (pack Format.binary64 (roundWithAccuracy Format.binary64 .positive m e .exact))) =
      min (roundedTicks (m * 2 ^ (e + 2148).toNat) : Int) (2 ^ 2098) := by
  have hT' := targetExponent_binary64 m e
  set k := (Format.binary64.targetExponent (totalExponent m e) - e).toNat with hk
  have hek : e + k = max (m.log2 + e - 52) (-1074) := by omega
  -- the rounded mantissa has at most 53 bits, and 53 unless the value is subnormal
  have hq : m / 2 ^ k < 2 ^ 53 := by
    rw [Nat.div_lt_iff_lt_mul (by positivity), ← pow_add]
    exact lt_of_lt_of_le Nat.lt_log2_self (Nat.pow_le_pow_right (by norm_num) (by omega))
  have hr : rne m k ≤ 2 ^ 53 := by have := rne_le m k; omega
  have hn : 2 ^ 52 ≤ rne m k ∨ e + k = -1074 := by
    by_cases hsub : e + k = -1074
    · exact .inr hsub
    · left
      have h52 : 2 ^ 52 ≤ m / 2 ^ k := by
        rw [Nat.le_div_iff_mul_le (by positivity), ← pow_add]
        exact le_trans (Nat.pow_le_pow_right (by norm_num) (by omega)) (Nat.log2_self_le hm.ne')
      exact le_trans h52 (le_rne m k)
  rw [ticks_roundWithAccuracy k hk hr (by omega) hn]
  -- the same rounding, read on `m * 2 ^ (e + 2148)`
  have hlog := log2_mul_two_pow hm (e + 2148).toNat
  have hS : max ((m * 2 ^ (e + 2148).toNat).log2 - 52) 1074 = k + (e + 2148).toNat := by
    omega
  have hexp : (e + k + 1074).toNat = max ((m * 2 ^ (e + 2148).toNat).log2 - 52) 1074 - 1074 := by
    omega
  rw [roundedTicks, hS, rne_mul_pow, ← hS, ← hexp]
  push_cast
  rfl

/-- **Rounding is monotone**, also across binades and into the subnormal range. -/
lemma roundedTicks_mono {N N' : Nat} (h : N ≤ N') : roundedTicks N ≤ roundedTicks N' := by
  rcases Nat.eq_zero_or_pos N with rfl | hN
  · simp [roundedTicks, rne]
  have hN' : 0 < N' := lt_of_lt_of_le hN h
  have hlog : N.log2 ≤ N'.log2 :=
    (Nat.le_log2 hN'.ne').2 (le_trans (Nat.log2_self_le hN.ne') h)
  unfold roundedTicks
  set S := max (N.log2 - 52) 1074 with hS
  set S' := max (N'.log2 - 52) 1074 with hS'
  rcases Nat.lt_or_eq_of_le (show S ≤ S' by omega) with hlt | heq
  · -- `N'` lies in a higher binade than every value that rounds at shift `S`: compare both
    -- with `2 ^ (S' + 52)`, a power of two that rounds to itself at both shifts
    have hlo : 2 ^ (S' + 52) ≤ N' :=
      le_trans (Nat.pow_le_pow_right (by norm_num) (by omega)) (Nat.log2_self_le hN'.ne')
    have hhi : N ≤ 2 ^ (S' + 52) :=
      le_trans Nat.lt_log2_self.le (Nat.pow_le_pow_right (by norm_num) (by omega))
    have h1 := rne_mul_le_of_le hhi (show S ≤ S' + 52 by omega)
    have h2 := le_rne_mul_of_le hlo (show S' ≤ S' + 52 by omega)
    have hp : ∀ T, 1074 ≤ T → 2 ^ T = 2 ^ (T - 1074) * 2 ^ 1074 := fun T hT => by
      rw [← pow_add, Nat.sub_add_cancel hT]
    rw [hp S (by omega), ← mul_assoc] at h1
    rw [hp S' (by omega), ← mul_assoc] at h2
    have h3 := le_trans h1 h2
    exact Nat.le_of_mul_le_mul_right h3 (by positivity)
  · rw [heq]
    exact Nat.mul_le_mul_right _ (rne_mono h S')

/-! ### Products -/

lemma ticks_mul_finite {m m' : Nat} {e e' : Int} (hm : 0 < m) (hm' : 0 < m')
    (hc : Canonical (.finite .positive m e hm)) (hc' : Canonical (.finite .positive m' e' hm')) :
    ticks (unpack Format.binary64 (pack Format.binary64
        (UnpackedFloat.mul Format.binary64 (.finite .positive m e hm) (.finite .positive m' e' hm')))) =
      min (roundedTicks (m * 2 ^ (e + 1074).toNat * (m' * 2 ^ (e' + 1074).toNat)) : Int) (2 ^ 2098) := by
  obtain ⟨h1, h2, -, h4⟩ := hc
  obtain ⟨h1', h2', -, h4'⟩ := hc'
  -- a product needs no left shift: it has 53 bits or more, or lies below the normal range
  have hT : 52 ≤ (m * m').log2 ∨ e + e' ≤ -1074 := by
    by_cases hbig : 2 ^ 52 ≤ m * m'
    · exact .inl ((Nat.le_log2 (by positivity)).2 hbig)
    · have hs : m < 2 ^ 52 ∧ m' < 2 ^ 52 := by
        constructor
        · by_contra h
          exact hbig (le_trans (not_lt.1 h) (Nat.le_mul_of_pos_right m hm'))
        · by_contra h
          exact hbig (le_trans (not_lt.1 h) (Nat.le_mul_of_pos_left m' hm))
      right
      omega
  have hprod : m * 2 ^ (e + 1074).toNat * (m' * 2 ^ (e' + 1074).toNat) =
      m * m' * 2 ^ (e + e' + 2148).toNat := by
    rw [show (e + e' + 2148).toNat = (e + 1074).toNat + (e' + 1074).toNat by omega, pow_add]
    ring
  rw [hprod]
  exact ticks_round_exact (Nat.mul_pos hm hm') (by omega) hT

lemma isNaN_roundWithAccuracy (s : Sign) (m : Nat) (e : Int) (acc : Accuracy) :
    (roundWithAccuracy Format.binary64 s m e acc).isNaN = false := by
  simp only [roundWithAccuracy]
  split <;> rfl

section Mul

@[simp] lemma positive_mul (s : Sign) : Sign.positive * s = s := by
  cases s <;> rfl

variable (s s' : Sign) (m : Nat) (e : Int) (hm : 0 < m)

@[simp] lemma mul_zero_finite :
    UnpackedFloat.mul Format.binary64 (.zero s) (.finite s' m e hm) = .zero (s * s') := rfl

@[simp] lemma mul_finite_zero :
    UnpackedFloat.mul Format.binary64 (.finite s m e hm) (.zero s') = .zero (s * s') := rfl

@[simp] lemma mul_zero_zero : UnpackedFloat.mul Format.binary64 (.zero s) (.zero s') = .zero (s * s') :=
  rfl

@[simp] lemma mul_infinity_finite :
    UnpackedFloat.mul Format.binary64 (.infinity s) (.finite s' m e hm) = .infinity (s * s') := rfl

@[simp] lemma mul_infinity_zero :
    UnpackedFloat.mul Format.binary64 (.infinity s) (.zero s') = .notANumber := rfl

@[simp] lemma ticks_repack_zero :
    ticks (unpack Format.binary64 (pack Format.binary64 (.zero s))) = 0 := by
  cases s <;> rfl

@[simp] lemma ticks_repack_top :
    ticks (unpack Format.binary64 (pack Format.binary64 (.infinity .positive))) = 2 ^ 2098 := rfl

end Mul

lemma ticks_mul_finite_nonneg {a : UnpackedFloat} (ha : Canonical a) (han : a.isNaN = false)
    (h0 : 0 ≤ ticks a) {m : Nat} {e : Int} (hm : 0 < m) (hc : Canonical (.finite .positive m e hm)) :
    0 ≤ ticks (unpack Format.binary64 (pack Format.binary64
      (UnpackedFloat.mul Format.binary64 a (.finite .positive m e hm)))) := by
  rcases nonneg_cases ha han h0 with ⟨s, rfl⟩ | ⟨m', e', hm', rfl⟩ | rfl
  · simp
  · rw [ticks_mul_finite hm' hm ha hc]
    exact le_min (Nat.cast_nonneg _) (pow_nonneg (by norm_num) _)
  · rw [mul_infinity_finite, positive_mul, ticks_repack_top]
    exact pow_nonneg (by norm_num) _

lemma isFinite_of_mul_zero {a : UnpackedFloat} {s : Sign}
    (h : (UnpackedFloat.mul Format.binary64 a (.zero s)).isNaN = false) : a.isFinite = true := by
  cases a <;> simp_all [UnpackedFloat.isNaN, UnpackedFloat.isFinite, UnpackedFloat.mul]

lemma mul_zero_of_isFinite {a : UnpackedFloat} (ha : a.isFinite = true) (s : Sign) :
    ∃ s', UnpackedFloat.mul Format.binary64 a (.zero s) = .zero s' := by
  cases a with
  | zero s₀ => exact ⟨_, mul_zero_zero s₀ s⟩
  | finite s₀ m e hm => exact ⟨_, mul_finite_zero s₀ s m e hm⟩
  | notANumber | infinity => simp [UnpackedFloat.isFinite] at ha

lemma isFinite_of_ticks_le {a a' : UnpackedFloat} (ha : Canonical a) (han : a.isNaN = false)
    (h0 : 0 ≤ ticks a) (ha' : Canonical a') (ha'f : a'.isFinite = true)
    (haa : ticks a ≤ ticks a') : a.isFinite = true := by
  rcases nonneg_cases ha han h0 with ⟨s, rfl⟩ | ⟨m, e, hm, rfl⟩ | rfl
  · rfl
  · rfl
  · exact absurd haa (not_le.2 (ticks_lt_top ha' ha'f))

lemma eq_top_of_top_le {a : UnpackedFloat} (ha : Canonical a) (han : a.isNaN = false)
    (h : ticks (.infinity .positive) ≤ ticks a) : a = .infinity .positive := by
  have h0 : 0 ≤ ticks a := le_trans (pow_nonneg (by norm_num) _) h
  rcases nonneg_cases ha han h0 with ⟨s, rfl⟩ | ⟨m, e, hm, rfl⟩ | rfl
  · exact absurd h (not_le.2 (by simp only [ticks, Sign.apply]; positivity))
  · exact absurd h (not_le.2 (ticks_lt_top ha rfl))
  · rfl

/-- **Multiplication is monotone** in a non-negative left factor, for a non-negative finite right
factor, as long as the larger product is a number. -/
lemma mul_mono_left {a a' b : UnpackedFloat} (ha : Canonical a) (ha' : Canonical a')
    (hb : Canonical b) (han : a.isNaN = false) (ha'n : a'.isNaN = false) (h0 : 0 ≤ ticks a)
    (haa : ticks a ≤ ticks a') (hbf : b.isFinite = true) (hb0 : 0 ≤ ticks b)
    (hn : (UnpackedFloat.mul Format.binary64 a' b).isNaN = false) :
    (UnpackedFloat.mul Format.binary64 a b).isNaN = false ∧
      ticks (unpack Format.binary64 (pack Format.binary64 (UnpackedFloat.mul Format.binary64 a b))) ≤
        ticks (unpack Format.binary64 (pack Format.binary64 (UnpackedFloat.mul Format.binary64 a' b))) := by
  have hbn : b.isNaN = false := by cases b <;> simp_all [UnpackedFloat.isFinite, UnpackedFloat.isNaN]
  have ha'0 : 0 ≤ ticks a' := le_trans h0 haa
  rcases nonneg_cases hb hbn hb0 with ⟨sb, rfl⟩ | ⟨mb, eb, hmb, rfl⟩ | rfl
  · -- times zero: both factors are finite, so both products are zeros
    have ha'f := isFinite_of_mul_zero hn
    obtain ⟨z, hz⟩ := mul_zero_of_isFinite (isFinite_of_ticks_le ha han h0 ha' ha'f haa) sb
    obtain ⟨z', hz'⟩ := mul_zero_of_isFinite ha'f sb
    rw [hz, hz']
    simp [UnpackedFloat.isNaN]
  · rcases nonneg_cases ha han h0 with ⟨s, rfl⟩ | ⟨m, e, hm, rfl⟩ | rfl
    · refine ⟨by simp [UnpackedFloat.isNaN], ?_⟩
      rw [mul_zero_finite, ticks_repack_zero]
      exact ticks_mul_finite_nonneg ha' ha'n ha'0 hmb hb
    · refine ⟨isNaN_roundWithAccuracy _ _ _ _, ?_⟩
      rw [ticks_mul_finite hm hmb ha hb]
      rcases nonneg_cases ha' ha'n ha'0 with ⟨s', rfl⟩ | ⟨m', e', hm', rfl⟩ | rfl
      · exact absurd haa (not_le.2 (magnitude_pos hm e))
      · -- both finite: the exact products are ordered, and rounding keeps the order
        rw [ticks_mul_finite hm' hmb ha' hb]
        have hle : m * 2 ^ (e + 1074).toNat ≤ m' * 2 ^ (e' + 1074).toNat := by
          have : ((m * 2 ^ (e + 1074).toNat : Nat) : Int) ≤ (m' * 2 ^ (e' + 1074).toNat : Nat) := by
            push_cast; exact haa
          exact_mod_cast this
        exact min_le_min_right _ (Nat.cast_le.2 (roundedTicks_mono (Nat.mul_le_mul_right _ hle)))
      · rw [mul_infinity_finite]
        exact min_le_right _ _
    · -- infinity times a positive value: the larger factor is infinity too
      obtain rfl := eq_top_of_top_le ha' ha'n haa
      simp [UnpackedFloat.isNaN]
  · simp [UnpackedFloat.isFinite] at hbf

/-- **A larger non-negative factor gives a product no smaller**, for a finite non-negative
other factor, as long as the larger product is a number: rounding keeps the order of the exact
products, `0 * x` is a zero, and `∞ * x` is infinite unless `x` is zero. -/
lemma Float.mul_le_mul_right {r r' x : Float} (h0 : 0.0 ≤ r) (hr : r ≤ r') (hx : x.isFinite = true)
    (hx0 : 0.0 ≤ x) (hn : (r' * x).isNaN = false) : r * x ≤ r' * x := by
  obtain ⟨-, hrn, h0⟩ := le_iff_value.1 h0
  obtain ⟨-, hr'n, hrr⟩ := le_iff_value.1 hr
  obtain ⟨-, -, hx0⟩ := le_iff_value.1 hx0
  rw [value_zero] at h0 hx0
  have hn' : (UnpackedFloat.mul Format.binary64 r'.toModel.unpack x.toModel.unpack).isNaN = false :=
    (isNaN_unpack_pack _).symm.trans hn
  obtain ⟨hm, hle⟩ := mul_mono_left (canonical_toModel r) (canonical_toModel r')
    (canonical_toModel x) hrn hr'n h0 hrr hx hx0 hn'
  exact le_iff_value.2 ⟨(isNaN_unpack_pack _).trans hm, hn, hle⟩

lemma Float.mul_nonneg_of_finite {a b : Float} (ha : 0.0 ≤ a) (hb : b.isFinite = true)
    (hb0 : 0.0 < b) : 0.0 ≤ a * b := by
  obtain ⟨-, han, ha0⟩ := le_iff_value.1 ha
  obtain ⟨-, hbn, hb0'⟩ := lt_iff_value.1 hb0
  rw [value_zero] at ha0 hb0'
  -- `b` is a positive finite value
  obtain ⟨m, e, hm, hbu⟩ : ∃ m e hm, b.toModel.unpack = .finite .positive m e hm := by
    rcases nonneg_cases (canonical_toModel b) hbn hb0'.le with ⟨s, hs⟩ | ⟨m, e, hm, hs⟩ | hs
    · simp [value, hs, ticks] at hb0'
    · exact ⟨m, e, hm, hs⟩
    · simp [Float.isFinite, Float.Model.isFinite, hs, UnpackedFloat.isFinite] at hb
  have hc := canonical_toModel b
  rw [hbu] at hc
  have hmul : (a * b).toModel.unpack =
      unpack Format.binary64 (pack Format.binary64
        (UnpackedFloat.mul Format.binary64 a.toModel.unpack (.finite .positive m e hm))) := by
    rw [← hbu]; rfl
  have hn : (a * b).isNaN = false := by
    change (a * b).toModel.unpack.isNaN = false
    rw [hmul, isNaN_unpack_pack]
    rcases nonneg_cases (canonical_toModel a) han ha0 with ⟨s, hs⟩ | ⟨m', e', hm', hs⟩ | hs
    · rw [hs, mul_zero_finite]; rfl
    · rw [hs]; exact isNaN_roundWithAccuracy _ _ _ _
    · rw [hs, mul_infinity_finite]; rfl
  refine le_iff_value.2 ⟨rfl, hn, ?_⟩
  rw [value_zero, value, hmul]
  exact ticks_mul_finite_nonneg (canonical_toModel a) han ha0 hm hc

end SimRegress.Binary64
