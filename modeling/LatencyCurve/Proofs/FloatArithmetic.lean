import LatencyCurve.Proofs.Rounding

/-!
# Arithmetic of binary64 numbers

The result of an operation, if it is finite, comes from finite operands and is near the exact one
(`near_add` and its like). Natural numbers below `2 ^ 53` are themselves (`value_ofNat`).

No operation has to be watched for its range: what exceeds it is an infinity, and no operation that
is used on sums makes a finite number of one.
-/

namespace LatencyCurve

open Float.Model (Format UnpackedFloat totalExponent)
open Float.Model.UnpackedFloat (Sign Accuracy unpack pack decreaseExponent divCore sqrtCore
  accuracyOfFraction roundWithAccuracy)

namespace Binary64

/-! ### Exact results in other forms -/

/-- Bits are added to a significand without changing the number. -/
theorem decreaseExponent_eq (m : ℕ) (e t : ℤ) :
    ((decreaseExponent m e t).1 : ℚ) * 2 ^ (decreaseExponent m e t).2 = m * 2 ^ e := by
  rw [decreaseExponent, Nat.shiftLeft_eq, Nat.cast_mul, Nat.cast_pow, Nat.cast_ofNat, mul_assoc,
    ← zpow_natCast, ← zpow_add₀ two_ne_zero]
  congr 2
  omega

theorem apply_decreaseExponent {m : ℕ} {e t : ℤ} (h : t ≤ e) (s : Sign) :
    ((s.apply (decreaseExponent m e t).1 : ℤ) : ℚ) * 2 ^ t = factor s * (m * 2 ^ e) := by
  have ht : (decreaseExponent m e t).2 = t := by
    rw [decreaseExponent]
    omega
  rw [cast_apply, mul_assoc, ← decreaseExponent_eq m e t, ht, Int.cast_natCast]

/-- A shifted significand has at least as many bits as its length and the shift come to. -/
theorem two_pow_le_mul {m k b : ℕ} (hm : 0 < m) (h : b ≤ m.log2 + k) : 2 ^ b ≤ m * 2 ^ k :=
  calc 2 ^ b ≤ 2 ^ (m.log2 + k) := Nat.pow_le_pow_right (by decide) h
    _ = 2 ^ m.log2 * 2 ^ k := Nat.pow_add ..
    _ ≤ m * 2 ^ k := Nat.mul_le_mul_right _ (Nat.log2_self_le hm.ne')

theorem rounds_round {m : ℕ} (hm : 0 < m) (e : ℤ) (s : Sign) :
    Rounds (UnpackedFloat.round Format.binary64 s m e) (factor s * (m * 2 ^ e)) := by
  set t := Format.binary64.targetExponent (totalExponent m e) with ht
  rw [targetExponent_eq, totalExponent_eq] at ht
  have hwide : 2 ^ 52 ≤ (decreaseExponent m e t).1 ∨ (decreaseExponent m e t).2 ≤ -1074 := by
    refine or_iff_not_imp_right.2 fun hmin ↦ ?_
    rw [decreaseExponent] at hmin ⊢
    rw [Nat.shiftLeft_eq]
    exact two_pow_le_mul hm (by omega)
  rw [← decreaseExponent_eq m e t]
  exact rounds_roundWithAccuracy_exact hwide s

theorem rounds_normalize (n e : ℤ) (s : Sign) :
    Rounds (UnpackedFloat.normalize Format.binary64 n e s) (n * 2 ^ e) := by
  rw [UnpackedFloat.normalize]
  rcases lt_trichotomy n 0 with h | rfl | h
  · have hn : (n : ℚ) = factor .negative * (-n).toNat := by
      rw [← Int.cast_natCast, Int.toNat_of_nonneg (by omega)]
      simp [factor]
    rw [Int.compare_eq_lt.2 h, hn, mul_assoc]
    exact rounds_round (by omega) e .negative
  · rw [Int.cast_zero, zero_mul]
    exact rounds_zero s
  · have hn : (n : ℚ) = factor .positive * n.toNat := by
      rw [← Int.cast_natCast, Int.toNat_of_nonneg h.le]
      simp
    rw [Int.compare_eq_gt.2 h, hn, mul_assoc]
    exact rounds_round (by omega) e .positive

/-! ### Operations on unpacked numbers -/

section Operations

variable {a b : UnpackedFloat}

theorem isFinite_of_add (h : (UnpackedFloat.add Format.binary64 a b).isFinite) :
    a.isFinite ∧ b.isFinite := by
  cases a <;> cases b <;> try exact ⟨rfl, rfl⟩
  all_goals
    simp only [UnpackedFloat.add] at h
    try split at h
    all_goals cases h

theorem isFinite_of_mul (h : (UnpackedFloat.mul Format.binary64 a b).isFinite) :
    a.isFinite ∧ b.isFinite := by
  cases a <;> cases b <;> first | exact ⟨rfl, rfl⟩ | cases h

theorem isFinite_of_div (hb : valueOf b ≠ 0)
    (h : (UnpackedFloat.div Format.binary64 a b).isFinite) : a.isFinite := by
  cases b with
  | infinity | notANumber | zero => exact absurd rfl hb
  | finite => cases a <;> first | rfl | cases h

theorem rounds_add (ha : Canonical a) (hb : Canonical b)
    (h : (UnpackedFloat.add Format.binary64 a b).isFinite) :
    Rounds (UnpackedFloat.add Format.binary64 a b) (valueOf a + valueOf b) := by
  obtain ⟨hfa, hfb⟩ := isFinite_of_add h
  cases a with
  | infinity | notANumber => cases hfa
  | zero s =>
    rw [valueOf_zero, zero_add]
    cases b with
    | infinity | notANumber => cases hfb
    | zero t =>
      rw [UnpackedFloat.add]
      split <;> exact rounds_zero _
    | finite => exact hb.rounds
  | finite s m e hm =>
    cases b with
    | infinity | notANumber => cases hfb
    | zero t =>
      rw [valueOf_zero, add_zero]
      exact ha.rounds
    | finite t n f hn =>
      rw [valueOf_finite, valueOf_finite, ← apply_decreaseExponent (min_le_left e f),
        ← apply_decreaseExponent (min_le_right e f), ← add_mul, ← Int.cast_add]
      exact rounds_normalize _ _ _

/-- A number with the other sign. -/
theorem valueOf_neg (a : UnpackedFloat) : valueOf a.neg = -valueOf a := by
  cases a with
  | infinity | notANumber | zero => exact neg_zero.symm
  | finite s m e hm =>
    rw [UnpackedFloat.neg, valueOf_finite, valueOf_finite, factor_neg, neg_mul]

theorem isFinite_neg (a : UnpackedFloat) : a.neg.isFinite = a.isFinite := by
  cases a <;> rfl

theorem Canonical.neg (ha : Canonical a) : Canonical a.neg := by
  cases a with
  | infinity | notANumber | zero => trivial
  | finite => exact ha

/-- Subtraction is addition of the number with the other sign. -/
theorem sub_eq_add (a b : UnpackedFloat) :
    UnpackedFloat.sub Format.binary64 a b = UnpackedFloat.add Format.binary64 a b.neg := by
  cases a with
  | finite s m e hm =>
    cases b with
    | finite t n f hn =>
      have hneg (k : ℤ) : (-t).apply k = -t.apply k := by
        cases t with
        | negative => exact (neg_neg k).symm
        | positive => rfl
      simp only [UnpackedFloat.sub, UnpackedFloat.neg, UnpackedFloat.add, hneg, sub_eq_add_neg]
    | infinity | notANumber | zero => rfl
  | infinity | notANumber | zero => cases b <;> rfl

theorem isFinite_of_sub (h : (UnpackedFloat.sub Format.binary64 a b).isFinite) :
    a.isFinite ∧ b.isFinite := by
  rw [sub_eq_add] at h
  rw [← isFinite_neg b]
  exact isFinite_of_add h

theorem rounds_sub (ha : Canonical a) (hb : Canonical b)
    (h : (UnpackedFloat.sub Format.binary64 a b).isFinite) :
    Rounds (UnpackedFloat.sub Format.binary64 a b) (valueOf a - valueOf b) := by
  rw [sub_eq_add] at h ⊢
  rw [sub_eq_add_neg, ← valueOf_neg]
  exact rounds_add ha hb.neg h

theorem rounds_mul (ha : Canonical a) (hb : Canonical b)
    (h : (UnpackedFloat.mul Format.binary64 a b).isFinite) :
    Rounds (UnpackedFloat.mul Format.binary64 a b) (valueOf a * valueOf b) := by
  obtain ⟨hfa, hfb⟩ := isFinite_of_mul h
  cases a with
  | infinity | notANumber => cases hfa
  | zero s =>
    rw [valueOf_zero, zero_mul]
    cases b with
    | infinity | notANumber => cases hfb
    | zero | finite => exact rounds_zero _
  | finite s m e hm =>
    cases b with
    | infinity | notANumber => cases hfb
    | zero t =>
      rw [valueOf_zero, mul_zero]
      exact rounds_zero _
    | finite t n f hn =>
      have hwide : 2 ^ 52 ≤ m * n ∨ e + f ≤ -1074 := by
        rcases ha.2.2 with hm' | rfl
        · exact .inl (hm'.trans (Nat.le_mul_of_pos_right m hn))
        · rcases hb.2.2 with hn' | rfl
          · exact .inl (hn'.trans (Nat.le_mul_of_pos_left n hm))
          · exact .inr (by decide)
      have hvalue : valueOf (.finite s m e hm) * valueOf (.finite t n f hn) =
          factor (s * t) * ((m * n : ℕ) * 2 ^ (e + f)) := by
        rw [valueOf_finite, valueOf_finite, factor_mul, Nat.cast_mul, zpow_add₀ two_ne_zero]
        ring
      rw [hvalue]
      exact rounds_roundWithAccuracy_exact hwide (s * t)

/-- The quotient of two significands, cut off at the exponent, has enough bits to be rounded. -/
theorem rounds_divCore {m n : ℕ} (hm : 0 < m) (hn : 0 < n) (e f : ℤ) (s : Sign) :
    let core := divCore Format.binary64 m e n f
    Rounds (roundWithAccuracy Format.binary64 s core.1 core.2.1 core.2.2)
      (factor s * (m * 2 ^ e / (n * 2 ^ f))) := by
  set t := min (e - f)
    (Format.binary64.targetExponent (totalExponent m e - totalExponent n f)) with ht
  rw [targetExponent_eq, totalExponent_eq, totalExponent_eq] at ht
  set k := (e - f - t).toNat with hk
  have hcore : divCore Format.binary64 m e n f =
      (m <<< k / n, t, accuracyOfFraction (m <<< k % n) n) :=
    rfl
  rw [hcore, Nat.shiftLeft_eq]
  dsimp only
  have hx : (m * 2 ^ e / (n * 2 ^ f) : ℚ) = (m * 2 ^ k : ℕ) / n * 2 ^ t := by
    have hpow : (2 : ℚ) ^ e / 2 ^ f = 2 ^ k * 2 ^ t := by
      rw [← zpow_sub₀ two_ne_zero, ← zpow_natCast, ← zpow_add₀ two_ne_zero]
      congr 1
      omega
    rw [mul_div_mul_comm, hpow]
    push_cast
    ring
  have hle : ((m * 2 ^ k / n : ℕ) : ℚ) ≤ (m * 2 ^ k : ℕ) / n := Nat.cast_div_le
  have hlt : ((m * 2 ^ k : ℕ) : ℚ) / n < (m * 2 ^ k / n : ℕ) + 1 := by
    rw [div_lt_iff₀ (Nat.cast_pos.2 hn)]
    exact_mod_cast Nat.lt_mul_of_div_lt (Nat.lt_succ_self _) hn
  rw [hx]
  refine rounds_roundWithAccuracy (or_iff_not_imp_right.2 fun hmin ↦ ?_) _ _ (by gcongr)
    (by gcongr)
  rw [Nat.le_div_iff_mul_le hn]
  calc 2 ^ 52 * n ≤ 2 ^ 52 * 2 ^ (n.log2 + 1) := Nat.mul_le_mul_left _ Nat.lt_log2_self.le
    _ = 2 ^ (52 + (n.log2 + 1)) := (Nat.pow_add ..).symm
    _ ≤ m * 2 ^ k := two_pow_le_mul hm (by omega)

theorem rounds_div (hb : valueOf b ≠ 0) (h : (UnpackedFloat.div Format.binary64 a b).isFinite) :
    Rounds (UnpackedFloat.div Format.binary64 a b) (valueOf a / valueOf b) := by
  have hfa := isFinite_of_div hb h
  cases b with
  | infinity | notANumber | zero => exact absurd rfl hb
  | finite t n f hn =>
    cases a with
    | infinity | notANumber => cases hfa
    | zero s =>
      rw [valueOf_zero, zero_div]
      exact rounds_zero _
    | finite s m e hm =>
      rw [valueOf_finite, valueOf_finite, mul_div_mul_comm, ← factor_div]
      exact rounds_divCore hm hn e f (s / t)

/-- So has the root of a significand. -/
theorem rounds_sqrtCore {m : ℕ} (hm : 0 < m) (e : ℤ) (s : Sign) :
    let core := sqrtCore Format.binary64 m e
    ∃ x : ℚ, 0 ≤ x ∧ x ^ 2 ≤ m * 2 ^ e ∧
      Rounds (roundWithAccuracy Format.binary64 s core.1 core.2.1 core.2.2) (factor s * x) := by
  set t := min (e / 2) (Format.binary64.targetExponent ((totalExponent m e + 1) / 2)) with ht
  rw [targetExponent_eq, totalExponent_eq] at ht
  set k := (e - 2 * t).toNat with hk
  obtain ⟨acc, hcore⟩ : ∃ acc, sqrtCore Format.binary64 m e = (Nat.sqrt (m <<< k), t, acc) :=
    ⟨_, rfl⟩
  rw [hcore, Nat.shiftLeft_eq]
  dsimp only
  refine ⟨Nat.sqrt (m * 2 ^ k) * 2 ^ t, by positivity, ?_, ?_⟩
  · have hpow : (2 : ℚ) ^ e = 2 ^ k * (2 ^ t) ^ 2 := by
      rw [← zpow_natCast, ← zpow_natCast, ← zpow_mul, ← zpow_add₀ two_ne_zero]
      congr 1
      push_cast
      omega
    have hsq : ((Nat.sqrt (m * 2 ^ k) : ℕ) : ℚ) ^ 2 ≤ m * 2 ^ k := by
      exact_mod_cast Nat.sqrt_le' (m * 2 ^ k)
    rw [mul_pow, hpow, ← mul_assoc]
    gcongr
  · refine rounds_roundWithAccuracy (or_iff_not_imp_right.2 fun hmin ↦ ?_) _ _ le_rfl ?_
    · rw [Nat.le_sqrt, ← Nat.pow_add]
      exact two_pow_le_mul hm (by omega)
    · gcongr
      exact lt_add_one _

theorem rounds_sqrt (h : (UnpackedFloat.sqrt Format.binary64 a).isFinite) :
    a.isFinite ∧ 0 ≤ valueOf (UnpackedFloat.sqrt Format.binary64 a) ∧
      ∃ x : ℚ, 0 ≤ x ∧ x ^ 2 ≤ valueOf a ∧
        Rounds (UnpackedFloat.sqrt Format.binary64 a) x := by
  cases a with
  | notANumber => cases h
  | infinity s => cases s <;> cases h
  | zero s => exact ⟨rfl, le_rfl, 0, le_rfl, by simp, rounds_zero _⟩
  | finite s m e hm =>
    cases s with
    | negative => cases h
    | positive =>
      obtain ⟨x, hx, hsq, hrounds⟩ := rounds_sqrtCore hm e .positive
      rw [factor_positive, one_mul] at hrounds
      rw [valueOf_finite, factor_positive, one_mul]
      exact ⟨rfl, valueOf_roundWithAccuracy_nonneg _ _ _, x, hx, hsq, hrounds⟩

end Operations

/-! ### Operations on binary64 numbers -/

/-- The number that a binary64 number stands for, `0` if it is not finite. -/
def value (x : Float) : ℚ :=
  valueOf x.toModel.unpack

theorem canonical (x : Float) : Canonical x.toModel.unpack :=
  canonical_unpack _

section Value

variable {x y : Float} {u : UnpackedFloat}

/-- What is packed as a finite number is one, -/
theorem isFinite_of_toModel_eq (hx : x.toModel = .pack u) (h : x.isFinite) : u.isFinite := by
  rw [Float.isFinite, hx] at h
  exact isFinite_of_unpack_pack h

/-- and if it is canonical it keeps its value. -/
theorem value_eq_of_toModel_eq (hx : x.toModel = .pack u) (h : x.isFinite) (hu : Canonical u) :
    value x = valueOf u := by
  rw [Float.isFinite, hx] at h
  rw [value, hx]
  exact congrArg valueOf (unpack_pack hu (.inl h))

theorem near_of_toModel_eq (hx : x.toModel = .pack u) (h : x.isFinite) {a : ℚ}
    (hu : Rounds u a) : Near (value x) a :=
  value_eq_of_toModel_eq hx h hu.canonical ▸ hu.near

theorem near_add (h : (x + y).isFinite) :
    x.isFinite ∧ y.isFinite ∧ Near (value (x + y)) (value x + value y) :=
  have hfin := isFinite_of_toModel_eq (x := x + y) rfl h
  ⟨(isFinite_of_add hfin).1, (isFinite_of_add hfin).2,
    near_of_toModel_eq rfl h (rounds_add (canonical x) (canonical y) hfin)⟩

theorem near_sub (h : (x - y).isFinite) :
    x.isFinite ∧ y.isFinite ∧ Near (value (x - y)) (value x - value y) :=
  have hfin := isFinite_of_toModel_eq (x := x - y) rfl h
  ⟨(isFinite_of_sub hfin).1, (isFinite_of_sub hfin).2,
    near_of_toModel_eq rfl h (rounds_sub (canonical x) (canonical y) hfin)⟩

theorem near_mul (h : (x * y).isFinite) :
    x.isFinite ∧ y.isFinite ∧ Near (value (x * y)) (value x * value y) :=
  have hfin := isFinite_of_toModel_eq (x := x * y) rfl h
  ⟨(isFinite_of_mul hfin).1, (isFinite_of_mul hfin).2,
    near_of_toModel_eq rfl h (rounds_mul (canonical x) (canonical y) hfin)⟩

theorem near_div (hy : value y ≠ 0) (h : (x / y).isFinite) :
    x.isFinite ∧ Near (value (x / y)) (value x / value y) :=
  have hfin := isFinite_of_toModel_eq (x := x / y) rfl h
  ⟨isFinite_of_div hy hfin, near_of_toModel_eq rfl h (rounds_div hy hfin)⟩

/-- What the square root is near is no more than the root. -/
theorem near_sqrt (h : x.sqrt.isFinite) :
    x.isFinite ∧ 0 ≤ value x.sqrt ∧ ∃ a, 0 ≤ a ∧ a ^ 2 ≤ value x ∧ Near (value x.sqrt) a := by
  have hfin := isFinite_of_toModel_eq (x := x.sqrt) rfl h
  obtain ⟨hx, hnonneg, a, ha, hsq, hrounds⟩ := rounds_sqrt hfin
  refine ⟨hx, ?_, a, ha, hsq, near_of_toModel_eq rfl h hrounds⟩
  rwa [value_eq_of_toModel_eq (x := x.sqrt) rfl h hrounds.canonical]

theorem value_of_not_isFinite (h : ¬ x.isFinite) : value x = 0 := by
  rw [Float.isFinite, Float.Model.isFinite] at h
  rw [value]
  generalize x.toModel.unpack = u at *
  cases u with
  | zero | finite => exact absurd rfl h
  | infinity | notANumber => rfl

end Value

/-! ### Natural numbers -/

theorem isFinite_of_valueOf_ne {u : UnpackedFloat} (h : valueOf u ≠ 0) : u.isFinite := by
  cases u with
  | zero | finite => rfl
  | infinity | notANumber => exact absurd rfl h

/-- A natural number of no more bits than a significand has is rounded to itself. -/
theorem exactly_ofNat {n : ℕ} (hpos : 0 < n) (hn : n < 2 ^ 53) :
    Canonical (UnpackedFloat.ofNat Format.binary64 n) ∧
      valueOf (UnpackedFloat.ofNat Format.binary64 n) = n := by
  have hlog : n.log2 ≤ 52 := Nat.lt_succ_iff.1 ((Nat.log2_lt hpos.ne').2 hn)
  have hofNat : UnpackedFloat.ofNat Format.binary64 n =
      roundWithAccuracy Format.binary64 .positive (n * 2 ^ (52 - n.log2))
        (0 - (52 - n.log2 : ℕ)) .exact := by
    have hk : (0 - max ((n.log2 : ℤ) + 1 + 0 - 53) (-1074)).toNat = 52 - n.log2 := by omega
    rw [UnpackedFloat.ofNat, UnpackedFloat.ofInt, UnpackedFloat.normalize,
      Int.compare_eq_gt.2 (by omega), ← Nat.shiftLeft_eq, ← hk, ← totalExponent_eq,
      ← targetExponent_eq]
    rfl
  obtain ⟨hcanonical, hvalue⟩ := exactly_roundWithAccuracy (j := 52 - n.log2)
    (e := 0 - (52 - n.log2 : ℕ)) hn (two_pow_le_mul hpos (by omega)) (by omega) .positive
  rw [hofNat]
  refine ⟨hcanonical, hvalue.trans ?_⟩
  simp

/-- The number one. -/
def one : UnpackedFloat := .finite .positive (2 ^ 52) (-52) (by decide)

/-- Multiplying by one is exact. -/
theorem exactly_mul_one {u : UnpackedFloat} (h : Canonical u) (hne : valueOf u ≠ 0) :
    Canonical (UnpackedFloat.mul Format.binary64 u one) ∧
      valueOf (UnpackedFloat.mul Format.binary64 u one) = valueOf u := by
  cases u with
  | infinity | notANumber | zero => exact absurd rfl hne
  | finite s m e hm =>
    obtain ⟨hcanonical, hvalue⟩ := exactly_roundWithAccuracy (j := 52) (e := e + -52) h.1
      (Nat.le_mul_of_pos_left _ hm) (by have := h.2.1; omega) (s * .positive)
    refine ⟨hcanonical, hvalue.trans ?_⟩
    rw [factor_mul, factor_positive, mul_one, valueOf_finite]
    congr 3
    omega

/-- A canonical number within the range is packed as it is. -/
theorem unpack_of_toModel_eq {x : Float} {u : UnpackedFloat} (hx : x.toModel = .pack u)
    (hu : Canonical u) (hvalue : |valueOf u| < 2 ^ 1024) : x.toModel.unpack = u := by
  rw [hx]
  exact unpack_pack hu (.inr hvalue)

theorem ofNat_of_lt {n : ℕ} (hn : n < 2 ^ 53) :
    Float.ofNat n = n.toUInt64.toFloat * Float.ofBits 0x3FF0000000000000 := by
  change Float.ofScientific n false 0 = _
  rw [Float.ofScientific, dif_pos ⟨hn, by decide⟩]
  rfl

/-- **Natural numbers below `2 ^ 53` are binary64 numbers.** -/
theorem value_ofNat {n : ℕ} (hn : n < 2 ^ 53) :
    (Float.ofNat n).isFinite ∧ value (Float.ofNat n) = n := by
  rcases Nat.eq_zero_or_pos n with rfl | hpos
  · exact ⟨rfl, Nat.cast_zero.symm⟩
  have hrange : |(n : ℚ)| < 2 ^ 1024 := by
    rw [Nat.abs_cast]
    exact_mod_cast hn.trans (Nat.pow_lt_pow_right (by decide) (by decide))
  have hne : (n : ℚ) ≠ 0 := Nat.cast_ne_zero.2 hpos.ne'
  obtain ⟨hcanonical, hvalue⟩ := exactly_ofNat hpos hn
  have hfactor : n.toUInt64.toFloat.toModel.unpack = UnpackedFloat.ofNat Format.binary64 n := by
    refine unpack_of_toModel_eq ?_ hcanonical (hvalue ▸ hrange)
    have htoNat : n.toUInt64.toNat = n := by
      exact Nat.mod_eq_of_lt (hn.trans (by decide))
    conv_rhs => rw [← htoNat]
    rfl
  obtain ⟨hcanonical', hvalue'⟩ := exactly_mul_one hcanonical (hvalue ▸ hne)
  rw [hvalue] at hvalue'
  have hproduct : (Float.ofNat n).toModel.unpack =
      UnpackedFloat.mul Format.binary64 (UnpackedFloat.ofNat Format.binary64 n) one := by
    refine unpack_of_toModel_eq ?_ hcanonical' (hvalue' ▸ hrange)
    rw [ofNat_of_lt hn, ← hfactor]
    rfl
  rw [Float.isFinite, Float.Model.isFinite, value, hproduct]
  exact ⟨isFinite_of_valueOf_ne (hvalue' ▸ hne), hvalue'⟩

/-- Other natural numbers are rounded, from some significand that is long enough. -/
theorem exists_toModel_ofNat {n : ℕ} (hn : 2 ^ 53 ≤ n) :
    ∃ (m : ℕ) (e : ℤ), 2 ^ 52 ≤ m ∧ (Float.ofNat n).toModel =
      .pack (roundWithAccuracy Format.binary64 .positive m e .exact) := by
  have hne : n ≠ 0 := by omega
  have hsmall : ¬ Int.ofNat 0 < -(2 ^ Format.binary64.exponentBits + n.log2 : ℤ) := by
    have hpow : (0 : ℤ) ≤ 2 ^ Format.binary64.exponentBits := by positivity
    rw [Int.ofNat_eq_natCast]
    omega
  have hlong : 2 ^ 52 ≤ n <<< 53 * 1 := by
    rw [Nat.shiftLeft_eq]
    omega
  refine ⟨_, -53 + 0, hlong, ?_⟩
  change (Float.ofScientific n false 0).toModel = _
  rw [Float.ofScientific, dif_neg (by omega)]
  change Float.Model.pack (UnpackedFloat.ofScientific Format.binary64 n (Int.ofNat 0)) = _
  rw [UnpackedFloat.ofScientific, dif_neg hne, if_neg (by decide), if_neg hsmall,
    if_pos (by decide)]
  rfl

/-- A natural number of any size is not negative. -/
theorem value_ofNat_nonneg (n : ℕ) : 0 ≤ value (Float.ofNat n) := by
  by_cases hfin : (Float.ofNat n).isFinite
  · rcases Nat.lt_or_ge n (2 ^ 53) with hn | hn
    · rw [(value_ofNat hn).2]
      exact Nat.cast_nonneg n
    · obtain ⟨m, e, hm, hmodel⟩ := exists_toModel_ofNat hn
      have hrounds := rounds_roundWithAccuracy_exact (e := e) (.inl hm) .positive
      rw [value_eq_of_toModel_eq hmodel hfin hrounds.canonical]
      exact valueOf_roundWithAccuracy_nonneg m e .exact
  · exact (value_of_not_isFinite hfin).ge

theorem valueOf_div_nonneg {a b : UnpackedFloat} (ha : 0 ≤ valueOf a) (hb : 0 < valueOf b) :
    0 ≤ valueOf (UnpackedFloat.div Format.binary64 a b) := by
  have hpositive {s : Sign} {m : ℕ} {e : ℤ} {h : 0 < m} (hs : 0 ≤ valueOf (.finite s m e h)) :
      s = .positive := by
    cases s with
    | positive => rfl
    | negative =>
      have : (0 : ℚ) < m * 2 ^ e := by positivity
      rw [valueOf_finite, factor] at hs
      linarith
  cases b with
  | infinity | notANumber | zero => exact absurd rfl hb.ne
  | finite t n f hn =>
    cases a with
    | infinity | notANumber | zero => exact le_rfl
    | finite s m e hm =>
      obtain rfl := hpositive ha
      obtain rfl := hpositive hb.le
      exact valueOf_roundWithAccuracy_nonneg _ _ _

/-- The quotient of numbers that are not negative is not negative. -/
theorem value_div_nonneg {x y : Float} (hx : 0 ≤ value x) (hy : 0 < value y) :
    0 ≤ value (x / y) := by
  by_cases hfin : (x / y).isFinite
  · have hdiv := isFinite_of_toModel_eq (x := x / y) rfl hfin
    rw [value_eq_of_toModel_eq (x := x / y) rfl hfin (rounds_div hy.ne' hdiv).canonical]
    exact valueOf_div_nonneg hx hy
  · exact (value_of_not_isFinite hfin).ge

end Binary64

end LatencyCurve
