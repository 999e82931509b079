import Mathlib

/-!
# Rounding of binary64 numbers

What the arithmetic of binary64 numbers computes with is a sign, a significand and an exponent.
Every operation finds these for its exact result, the significand cut off somewhere below the width
of the format, and then rounds once (`roundWithAccuracy`).

Rounding is looked at here as far as statistics need it. A rounded number is `Near` the exact one:
it misses it by no more than one unit in the last place, so by the `2 ^ 52`th part of it, or by the
least positive number of all where numbers are too small for that (`rounds_roundWithAccuracy`). It
is exact where the exact result has a place in the format (`exactly_roundWithAccuracy`). And it is
`Canonical`, so that packing it into 64 bits loses nothing, unless it exceeds the range
(`unpack_pack`).
-/

namespace LatencyCurve

open Float.Model (Format UnpackedFloat totalExponent)
open Float.Model.UnpackedFloat (Sign Accuracy ExtendedMantissa unpackMantissa unpackExponent
  unpackSign packComponents packedInfinity unpack pack shiftToExponent shiftToTargetExponent
  roundWithAccuracy unpackExponent_packComponents unpackMantissa_packComponents
  unpackSign_packComponents)

namespace Binary64

/-! ### What an unpacked number stands for -/

/-- What a sign multiplies by. -/
def factor : Sign → ℚ
  | .negative => -1
  | .positive => 1

@[simp] theorem factor_positive : factor .positive = 1 := rfl

@[simp] theorem abs_factor (s : Sign) : |factor s| = 1 := by
  cases s <;> simp [factor]

theorem factor_neg (s : Sign) : factor (-s) = -factor s := by
  cases s with
  | negative => exact (neg_neg 1).symm
  | positive => rfl

theorem factor_mul (s t : Sign) : factor (s * t) = factor s * factor t := by
  cases s <;> cases t
  · exact (by norm_num : (1 : ℚ) = -1 * -1)
  · exact (by norm_num : (-1 : ℚ) = -1 * 1)
  · exact (by norm_num : (-1 : ℚ) = 1 * -1)
  · exact (by norm_num : (1 : ℚ) = 1 * 1)

theorem factor_div (s t : Sign) : factor (s / t) = factor s / factor t := by
  cases s <;> cases t
  · exact (by norm_num : (1 : ℚ) = -1 / -1)
  · exact (by norm_num : (-1 : ℚ) = -1 / 1)
  · exact (by norm_num : (-1 : ℚ) = 1 / -1)
  · exact (by norm_num : (1 : ℚ) = 1 / 1)

theorem cast_apply (s : Sign) (n : ℤ) : ((s.apply n : ℤ) : ℚ) = factor s * n := by
  cases s <;> simp [factor, Sign.apply]

/-- The number that an unpacked number stands for, `0` if it is not finite. -/
def valueOf : UnpackedFloat → ℚ
  | .finite s m e _ => factor s * (m * 2 ^ e)
  | _ => 0

@[simp] theorem valueOf_zero (s : Sign) : valueOf (.zero s) = 0 := rfl

theorem valueOf_finite (s : Sign) {m : ℕ} (e : ℤ) (h : 0 < m) :
    valueOf (.finite s m e h) = factor s * (m * 2 ^ e) :=
  rfl

/-- The significand of a finite number takes the whole width of the format, or the exponent is the
least there is. -/
def Canonical : UnpackedFloat → Prop
  | .finite _ m e _ => m < 2 ^ 53 ∧ -1074 ≤ e ∧ (2 ^ 52 ≤ m ∨ e = -1074)
  | _ => True

/-! ### Bits -/

/-- The bit above the fraction that is not stored. -/
theorem toNat_leading_append (fraction : BitVec 52) :
    (1#1 ++ fraction).toNat = 2 ^ 52 + fraction.toNat := by
  rw [BitVec.toNat_append, ← Nat.shiftLeft_add_eq_or_of_lt fraction.isLt]
  simp

/-- Whatever is unpacked is canonical. -/
theorem canonical_unpack (b : BitVec 64) : Canonical (unpack Format.binary64 b) := by
  have hfraction : (@unpackMantissa Format.binary64 b).toNat < 2 ^ 52 :=
    (@unpackMantissa Format.binary64 b).isLt
  fun_cases unpack Format.binary64 b with
  | case1 | case2 | case3 => trivial
  | case4 fraction stored exponent _ _ _ hzero =>
    have hexponent : exponent = -1075 := by
      have h : stored.toNat = 0 := congrArg BitVec.toNat hzero
      simp only [exponent, h]
      rfl
    refine ⟨hfraction.trans (by decide), ?_, .inr ?_⟩ <;> omega
  | case5 fraction stored exponent _ _ _ hzero =>
    have hexponent : exponent = stored.toNat - 1075 := rfl
    have hstored : stored.toNat ≠ 0 := fun h ↦ hzero (BitVec.eq_of_toNat_eq h)
    rw [Canonical, toNat_leading_append]
    exact ⟨Nat.add_lt_add_left hfraction _, by omega, .inl (Nat.le_add_right _ _)⟩

/-- What is packed as a number of the whole width. -/
theorem unpack_packComponents (s : Sign) {stored : ℕ} (hpos : stored ≠ 0) (hlt : stored < 2047)
    {m : ℕ} (hm : 2 ^ 52 ≤ m) (hm' : m < 2 ^ 53) :
    unpack Format.binary64 (packComponents Format.binary64 s (BitVec.ofNat 11 stored)
      (BitVec.ofNat 52 m)) = .finite s m (stored - 1075) (Nat.lt_of_lt_of_le (by decide) hm) := by
  have hstored : (BitVec.ofNat 11 stored).toNat = stored := by
    rw [BitVec.toNat_ofNat, Nat.mod_eq_of_lt (by omega)]
  have hmantissa : (1#1 ++ BitVec.ofNat 52 m).toNat = m := by
    rw [toNat_leading_append, BitVec.toNat_ofNat]
    omega
  have hinfinite : BitVec.ofNat 11 stored ≠ -1#11 := fun h ↦
    hlt.ne (hstored.symm.trans (congrArg BitVec.toNat h))
  have hzero : BitVec.ofNat 11 stored ≠ 0#11 := fun h ↦
    hpos (hstored.symm.trans (congrArg BitVec.toNat h))
  rw [unpack]
  simp only [unpackExponent_packComponents, unpackMantissa_packComponents,
    unpackSign_packComponents, Sign.ofBitVec_toBitVec, hinfinite, hzero, if_false, hmantissa,
    hstored]
  rfl

/-- What is packed as a number with the least exponent. -/
theorem unpack_packComponents_zero (s : Sign) {m : ℕ} (hpos : 0 < m) (hm : m < 2 ^ 52) :
    unpack Format.binary64 (packComponents Format.binary64 s 0#11 (BitVec.ofNat 52 m)) =
      .finite s m (-1074) hpos := by
  have hmantissa : (BitVec.ofNat 52 m).toNat = m := by
    rw [BitVec.toNat_ofNat, Nat.mod_eq_of_lt hm]
  have hzero : BitVec.ofNat 52 m ≠ 0#52 := fun h ↦
    hpos.ne' (hmantissa.symm.trans (congrArg BitVec.toNat h))
  have hinfinite : 0#11 ≠ -1#11 := by decide
  rw [unpack]
  simp only [unpackExponent_packComponents, unpackMantissa_packComponents,
    unpackSign_packComponents, Sign.ofBitVec_toBitVec, hinfinite, hzero, if_false, if_true,
    hmantissa, dite_false]
  rfl

/-- Packing loses nothing of a canonical number that does not exceed the range. -/
theorem unpack_pack {u : UnpackedFloat} (h : Canonical u)
    (hfits : (unpack Format.binary64 (pack Format.binary64 u)).isFinite ∨ |valueOf u| < 2 ^ 1024) :
    unpack Format.binary64 (pack Format.binary64 u) = u := by
  cases u with
  | notANumber => rfl
  | infinity s => cases s <;> rfl
  | zero s => cases s <;> rfl
  | finite s m e hpos =>
    obtain ⟨hm, he, hwide⟩ := h
    let stored := (e + 1075).toNat
    have hpack : pack Format.binary64 (.finite s m e hpos) =
        if 2048 ≤ stored + 1 then packedInfinity Format.binary64 s
        else if m.log2 + 1 = 53 then
          packComponents Format.binary64 s (BitVec.ofNat 11 stored) (BitVec.ofNat 52 m)
        else packComponents Format.binary64 s 0#11 (BitVec.ofNat 52 m) := by
      have hstored : (e + Format.binary64.exponentBias +
          Format.binary64.mantissaBitsWithoutImplicit).toNat = stored := by
        change (e + (1023 : ℕ) + (52 : ℕ)).toNat = stored
        omega
      rw [pack, hstored]
      rfl
    rw [hpack] at hfits ⊢
    split_ifs at hfits ⊢ with hlarge hlog
    · exfalso
      rcases hfits with hfits | hfits
      · cases s <;> cases hfits
      · have hm : (2 : ℚ) ^ 52 ≤ m := by exact_mod_cast hwide.resolve_right (by omega)
        have he : (2 : ℚ) ^ 972 ≤ 2 ^ e := by
          rw [← zpow_natCast]
          exact zpow_le_zpow_right₀ one_le_two (by omega)
        rw [valueOf_finite, abs_mul, abs_factor, one_mul, abs_of_nonneg (by positivity)] at hfits
        have hvalue : (2 : ℚ) ^ 1024 ≤ m * 2 ^ e := by
          rw [(pow_add 2 52 972 : (2 : ℚ) ^ 1024 = 2 ^ 52 * 2 ^ 972)]
          gcongr
        exact absurd (hvalue.trans_lt hfits) (lt_irrefl _)
    · have hlow : 2 ^ 52 ≤ m := (Nat.le_log2 hpos.ne').1 (by omega)
      rw [unpack_packComponents s (by omega) (by omega) hlow hm]
      congr 1
      omega
    · have hlow : m < 2 ^ 52 := by
        by_contra hlow
        have := (Nat.le_log2 hpos.ne').2 (not_lt.1 hlow)
        have := (Nat.log2_lt hpos.ne').2 hm
        omega
      obtain rfl : e = -1074 := hwide.resolve_left (not_le.2 hlow)
      exact unpack_packComponents_zero s hpos hlow

/-- What is finite when packed is finite. -/
theorem isFinite_of_unpack_pack {u : UnpackedFloat}
    (h : (unpack Format.binary64 (pack Format.binary64 u)).isFinite) : u.isFinite := by
  cases u with
  | notANumber => cases h
  | infinity s => cases s <;> cases h
  | zero | finite => rfl

/-! ### Shifting to the width of the format -/

theorem mantissa_shiftRight (em : ExtendedMantissa) (k : ℕ) :
    (em >>> k).mantissa = em.mantissa / 2 ^ k := by
  induction k with
  | zero => exact (Nat.div_one _).symm
  | succ k ih =>
    have hstep : (em >>> (k + 1)).mantissa = (em >>> k).mantissa / 2 := rfl
    rw [hstep, ih, Nat.div_div_eq_div_mul, Nat.pow_succ]

/-- Zeros are shifted out without a trace. -/
theorem shiftRight_exact (q k : ℕ) :
    (⟨q * 2 ^ k, false, false⟩ : ExtendedMantissa) >>> k = ⟨q, false, false⟩ := by
  induction k generalizing q with
  | zero =>
    rw [Nat.pow_zero, Nat.mul_one]
    rfl
  | succ k ih =>
    have hstep : (⟨q * 2 ^ (k + 1), false, false⟩ : ExtendedMantissa) >>> (k + 1) =
        ((⟨q * 2 * 2 ^ k, false, false⟩ : ExtendedMantissa) >>> k).shiftRightOne := by
      rw [Nat.pow_succ', Nat.mul_assoc]
      rfl
    rw [hstep, ih, ExtendedMantissa.shiftRightOne]
    simp

theorem mantissa_ofMantissaAndAccuracy (m : ℕ) (acc : Accuracy) :
    (ExtendedMantissa.ofMantissaAndAccuracy m acc).mantissa = m := by
  fun_cases ExtendedMantissa.ofMantissaAndAccuracy m acc <;> rfl

/-- Rounding goes to one of the two neighbours. -/
theorem roundedMantissa_mem (em : ExtendedMantissa) :
    em.mantissa ≤ em.roundedMantissa ∧ em.roundedMantissa ≤ em.mantissa + 1 := by
  obtain ⟨m, _ | _, _ | _⟩ := em <;>
    simp [ExtendedMantissa.roundedMantissa, ExtendedMantissa.accuracy, Accuracy.roundToNearestEven]
  omega

theorem targetExponent_eq (e : ℤ) :
    Format.binary64.targetExponent e = max (e - 53) (-1074) := by
  simp [Format.targetExponent, Format.mantissaBits, Format.minExponent]

theorem totalExponent_eq (m : ℕ) (e : ℤ) : totalExponent m e = m.log2 + 1 + e := rfl

/-- The bits to shift out so that a significand takes the whole width, or the exponent is the least
there is. -/
theorem exists_shift {m : ℕ} {e : ℤ} (h : 2 ^ 52 ≤ m ∨ e ≤ -1074) :
    ∃ k : ℕ, (Format.binary64.targetExponent (totalExponent m e) - e).toNat = k ∧
      -1074 ≤ e + k ∧ m / 2 ^ k < 2 ^ 53 ∧ (2 ^ 52 ≤ m / 2 ^ k ∨ e + k = -1074) := by
  rw [targetExponent_eq, totalExponent_eq]
  refine ⟨_, rfl, ?_⟩
  set k := (max ((m.log2 : ℤ) + 1 + e - 53) (-1074) - e).toNat with hk
  have hlog : m.log2 ≤ 52 + k := by omega
  have hlt : m / 2 ^ k < 2 ^ 53 := by
    rw [Nat.div_lt_iff_lt_mul (Nat.two_pow_pos k), ← Nat.pow_add]
    exact Nat.lt_log2_self.trans_le (Nat.pow_le_pow_right (by decide) (by omega))
  have hfull : 52 ≤ m.log2 ∨ e ≤ -1074 := h.imp_left fun h ↦ (Nat.le_log2 (by omega)).2 h
  refine ⟨by omega, hlt, or_iff_not_imp_right.2 fun hmin ↦ ?_⟩
  have hexact : m.log2 = 52 + k := by omega
  have hne : m ≠ 0 := by
    rintro rfl
    rw [Nat.log2_zero] at hexact
    omega
  rw [Nat.le_div_iff_mul_le (Nat.two_pow_pos k), ← Nat.pow_add, ← hexact]
  exact Nat.log2_self_le hne

/-- A significand within the width is not shifted. -/
theorem shiftToTargetExponent_of_lt {m : ℕ} {e : ℤ} (hm : m < 2 ^ 53) (he : -1074 ≤ e) :
    shiftToTargetExponent Format.binary64 m e .exact = (⟨m, false, false⟩, e) := by
  have hlog : m.log2 ≤ 52 := by
    rcases Nat.eq_zero_or_pos m with rfl | hpos
    · decide
    · exact Nat.lt_succ_iff.1 ((Nat.log2_lt hpos.ne').2 hm)
  have hk : (max ((m.log2 : ℤ) + 1 + e - 53) (-1074) - e).toNat = 0 := by omega
  rw [shiftToTargetExponent, shiftToExponent, targetExponent_eq, totalExponent_eq, hk]
  simp only [Nat.cast_zero, add_zero]
  rfl

/-- One that rounding has made exceed the width is shifted once. -/
theorem shiftToTargetExponent_two_pow {e : ℤ} (he : -1074 ≤ e) :
    shiftToTargetExponent Format.binary64 (2 ^ 53) e .exact = (⟨2 ^ 52, false, false⟩, e + 1) := by
  have hk : (max (((2 ^ 53 : ℕ).log2 : ℤ) + 1 + e - 53) (-1074) - e).toNat = 1 := by
    rw [Nat.log2_two_pow]
    omega
  rw [shiftToTargetExponent, shiftToExponent, targetExponent_eq, totalExponent_eq, hk]
  rfl

/-! ### Rounding -/

/-- What rounding comes to: `k` bits of the significand are shifted out, and the significand of the
result is one of the two neighbours, the lower one if nothing but zeros has been shifted out. -/
theorem exists_roundWithAccuracy {m : ℕ} {e : ℤ} (h : 2 ^ 52 ≤ m ∨ e ≤ -1074) (s : Sign)
    (acc : Accuracy) :
    ∃ k r : ℕ, -1074 ≤ e + k ∧ (2 ^ 52 ≤ m / 2 ^ k ∨ e + k = -1074) ∧
      (m / 2 ^ k ≤ r ∧ r ≤ m / 2 ^ k + 1) ∧ (acc = .exact → 2 ^ k ∣ m → r = m / 2 ^ k) ∧
      Canonical (roundWithAccuracy Format.binary64 s m e acc) ∧
      valueOf (roundWithAccuracy Format.binary64 s m e acc) = factor s * (r * 2 ^ (e + k)) := by
  obtain ⟨k, hk, hmin, hlt, hwide⟩ := exists_shift h
  let em := ExtendedMantissa.ofMantissaAndAccuracy m acc >>> k
  have hmem := roundedMantissa_mem em
  have hmantissa : em.mantissa = m / 2 ^ k := by
    rw [mantissa_shiftRight, mantissa_ofMantissaAndAccuracy]
  rw [hmantissa] at hmem
  have hexact : acc = .exact → 2 ^ k ∣ m → em.roundedMantissa = m / 2 ^ k := by
    rintro rfl ⟨q, rfl⟩
    have hem : em = ⟨q, false, false⟩ := by
      rw [← shiftRight_exact q k, Nat.mul_comm q]
      rfl
    rw [hem, Nat.mul_div_cancel_left q (Nat.two_pow_pos k)]
    rfl
  have hround : roundWithAccuracy Format.binary64 s m e acc =
      let final := shiftToTargetExponent Format.binary64 em.roundedMantissa (e + k) .exact
      if h : final.1.mantissa = 0 then .zero s
      else .finite s final.1.mantissa final.2 (Nat.pos_of_ne_zero h) := by
    rw [roundWithAccuracy, shiftToTargetExponent, shiftToExponent, hk]
  refine ⟨k, em.roundedMantissa, hmin, hwide, hmem, hexact, ?_⟩
  generalize em.roundedMantissa = r at *
  rcases (by omega : r < 2 ^ 53 ∨ r = 2 ^ 53) with hr | rfl
  · rw [shiftToTargetExponent_of_lt hr hmin] at hround
    by_cases hzero : r = 0
    · subst hzero
      simp [hround, Canonical]
    · simp only [hzero, dite_false] at hround
      rw [hround]
      exact ⟨⟨hr, hmin, hwide.imp_left hmem.1.trans'⟩, rfl⟩
  · rw [shiftToTargetExponent_two_pow hmin] at hround
    simp only [Nat.reducePow, Nat.reduceEqDiff, dite_false] at hround
    rw [hround]
    refine ⟨⟨by decide, by omega, .inl (by decide)⟩, ?_⟩
    rw [valueOf_finite, zpow_add_one₀ two_ne_zero]
    push_cast
    ring

/-- A number that is one unit in the last place away from another at most. -/
def Near (r x : ℚ) : Prop :=
  |r - x| ≤ |x| * 2 ^ (-52 : ℤ) + 2 ^ (-1074 : ℤ)

theorem Near.refl (x : ℚ) : Near x x := by
  rw [Near, sub_self, abs_zero]
  positivity

/-- A unit in the last place, below a number of the whole width or at the least exponent. -/
theorem near_of_abs_sub_le {r x : ℚ} {t : ℤ} (h : |r - x| ≤ 2 ^ t)
    (ht : 2 ^ 52 * 2 ^ t ≤ |x| ∨ t = -1074) : Near r x := by
  refine h.trans ?_
  rcases ht with ht | rfl
  · calc (2 : ℚ) ^ t = 2 ^ 52 * 2 ^ t * 2 ^ (-52 : ℤ) := by
          rw [zpow_neg]
          field_simp
      _ ≤ |x| * 2 ^ (-52 : ℤ) := by gcongr
      _ ≤ |x| * 2 ^ (-52 : ℤ) + 2 ^ (-1074 : ℤ) := le_add_of_nonneg_right (by positivity)
  · exact le_add_of_nonneg_left (by positivity)

/-- A canonical number near an exact one. -/
structure Rounds (u : UnpackedFloat) (x : ℚ) : Prop where
  /-- Packing it loses nothing. -/
  canonical : Canonical u
  /-- It stands for a number near the exact one. -/
  near : Near (valueOf u) x

theorem Canonical.rounds {u : UnpackedFloat} (h : Canonical u) : Rounds u (valueOf u) :=
  ⟨h, .refl _⟩

theorem rounds_zero (s : Sign) : Rounds (.zero s) 0 :=
  Canonical.rounds trivial

/-- **Rounding ends near the exact number**, of which the significand is what is left when it is cut
off at the exponent. -/
theorem rounds_roundWithAccuracy {m : ℕ} {e : ℤ} (h : 2 ^ 52 ≤ m ∨ e ≤ -1074) (s : Sign)
    (acc : Accuracy) {x : ℚ} (hle : m * 2 ^ e ≤ x) (hlt : x < (m + 1) * 2 ^ e) :
    Rounds (roundWithAccuracy Format.binary64 s m e acc) (factor s * x) := by
  obtain ⟨k, r, -, hwide, ⟨hqr, hrq⟩, -, hcanonical, hvalue⟩ := exists_roundWithAccuracy h s acc
  refine ⟨hcanonical, ?_⟩
  set q := m / 2 ^ k
  have hpow : (2 : ℚ) ^ (e + k) = 2 ^ k * 2 ^ e := by
    rw [zpow_add₀ two_ne_zero, zpow_natCast, mul_comm]
  -- Cut off further up, the exact number still lies between two neighbours.
  have hqx : q * 2 ^ (e + k) ≤ x := by
    have hqm : (q : ℚ) * 2 ^ k ≤ m := by exact_mod_cast Nat.div_mul_le_self m (2 ^ k)
    calc (q : ℚ) * 2 ^ (e + k) = q * 2 ^ k * 2 ^ e := by rw [hpow, mul_assoc]
      _ ≤ m * 2 ^ e := by gcongr
      _ ≤ x := hle
  have hxq : x < (q + 1) * 2 ^ (e + k) := by
    have hmq : (m : ℚ) + 1 ≤ (q + 1) * 2 ^ k := by
      exact_mod_cast Nat.lt_mul_of_div_lt (Nat.lt_succ_self q) (Nat.two_pow_pos k)
    calc x < (m + 1) * 2 ^ e := hlt
      _ ≤ (q + 1) * 2 ^ k * 2 ^ e := by gcongr
      _ = (q + 1) * 2 ^ (e + k) := by rw [hpow, mul_assoc]
  have hrx : |r * 2 ^ (e + k) - x| ≤ (2 : ℚ) ^ (e + k) := by
    have hlow : (q : ℚ) * 2 ^ (e + k) ≤ r * 2 ^ (e + k) := by gcongr
    have hhigh : (r : ℚ) * 2 ^ (e + k) ≤ (q + 1) * 2 ^ (e + k) := by
      gcongr
      exact_mod_cast hrq
    rw [abs_le]
    constructor <;> linarith
  have hx : 0 ≤ x := le_trans (by positivity) hle
  refine near_of_abs_sub_le ?_ (hwide.imp_left fun hwide ↦ ?_) (t := e + k)
  · rw [hvalue, ← mul_sub, abs_mul, abs_factor, one_mul]
    exact hrx
  · have hq : (2 : ℚ) ^ 52 ≤ q := by exact_mod_cast hwide
    rw [abs_mul, abs_factor, one_mul, abs_of_nonneg hx]
    exact le_trans (by gcongr) hqx

/-- Nothing has been cut off. -/
theorem rounds_roundWithAccuracy_exact {m : ℕ} {e : ℤ} (h : 2 ^ 52 ≤ m ∨ e ≤ -1074) (s : Sign) :
    Rounds (roundWithAccuracy Format.binary64 s m e .exact) (factor s * (m * 2 ^ e)) := by
  refine rounds_roundWithAccuracy h s .exact le_rfl ?_
  gcongr
  exact lt_add_one _

/-- **Rounding is exact** where only zeros have to be shifted out. -/
theorem exactly_roundWithAccuracy {c j : ℕ} {e : ℤ} (hc : c < 2 ^ 53) (h : 2 ^ 52 ≤ c * 2 ^ j)
    (he : -1074 ≤ e + j) (s : Sign) :
    Canonical (roundWithAccuracy Format.binary64 s (c * 2 ^ j) e .exact) ∧
      valueOf (roundWithAccuracy Format.binary64 s (c * 2 ^ j) e .exact) =
        factor s * (c * 2 ^ (e + j)) := by
  obtain ⟨k, r, -, hwide, -, hexact, hcanonical, hvalue⟩ :=
    exists_roundWithAccuracy (e := e) (.inl h) s .exact
  have hkj : k ≤ j := by
    rcases hwide with hwide | hwide
    · rw [Nat.le_div_iff_mul_le (Nat.two_pow_pos k), ← Nat.pow_add] at hwide
      have hlt : 2 ^ (52 + k) < 2 ^ (53 + j) :=
        hwide.trans_lt ((Nat.mul_lt_mul_of_pos_right hc (Nat.two_pow_pos j)).trans_eq
          (Nat.pow_add 2 53 j).symm)
      have hpow : 52 + k < 53 + j := (Nat.pow_lt_pow_iff_right (by decide)).1 hlt
      omega
    · omega
  obtain ⟨i, rfl⟩ := Nat.exists_eq_add_of_le hkj
  have hr : r = c * 2 ^ i := by
    have hm : c * 2 ^ (k + i) = 2 ^ k * (c * 2 ^ i) := by
      rw [Nat.pow_add]
      ring
    rw [hexact rfl ⟨_, hm⟩, hm, Nat.mul_div_cancel_left _ (Nat.two_pow_pos k)]
  refine ⟨hcanonical, ?_⟩
  rw [hvalue, hr, Nat.cast_add, ← add_assoc, zpow_add₀ two_ne_zero (e + k), zpow_natCast]
  push_cast
  ring

/-- Rounding keeps the sign. -/
theorem valueOf_roundWithAccuracy_nonneg (m : ℕ) (e : ℤ) (acc : Accuracy) :
    0 ≤ valueOf (roundWithAccuracy Format.binary64 .positive m e acc) := by
  rw [roundWithAccuracy]
  dsimp only
  split
  · exact le_rfl
  · rw [valueOf_finite, factor_positive, one_mul]
    positivity

end Binary64

end LatencyCurve
