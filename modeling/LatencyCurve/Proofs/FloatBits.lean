import LatencyCurve.Number.Decimal
import LatencyCurve.Proofs.FloatArithmetic

/-!
# Binary64 numbers and their bits

A text shows what `Reading.ofFloat` reads off the bits of a number, and sorting compares bits. Here
both are linked to the number itself: what is read is its value (`value_of_ofFloat_eq`), and of
numbers that are not negative sorting puts the smaller one first (`value_le_of_atMost`).
-/

namespace LatencyCurve

open Float.Model (Format UnpackedFloat)
open Float.Model.UnpackedFloat (Sign unpackMantissa unpackExponent unpackSign unpack)

namespace Binary64

/-! ### What is read off the bits -/

/-- Whether a sign is the negative one. -/
def isNegative : Sign → Bool
  | .negative => true
  | .positive => false

/-- The reading of an unpacked number. -/
def readingOf : UnpackedFloat → Reading
  | .notANumber => .nan
  | .infinity s => .infinite (isNegative s)
  | .zero s => .finite (isNegative s) 0 (-1074)
  | .finite s m e _ => .finite (isNegative s) m e

/-- What is unpacked is read off the fields of the bits. -/
theorem readingOf_unpack (b : BitVec 64) :
    readingOf (unpack Format.binary64 b) =
      let s := isNegative (Sign.ofBitVec (@unpackSign Format.binary64 b))
      let stored : BitVec 11 := @unpackExponent Format.binary64 b
      let fraction : BitVec 52 := @unpackMantissa Format.binary64 b
      if stored = -1#11 then if fraction = 0#52 then .infinite s else .nan
      else if stored = 0#11 then .finite s fraction.toNat (-1074)
      else .finite s (leadingBit + fraction.toNat) (stored.toNat - 1075) := by
  dsimp only
  fun_cases unpack Format.binary64 b with
  | case1 _ _ _ _ hlast hzero => exact ((if_pos hlast).trans (if_pos hzero)).symm
  | case2 _ _ hlast hzero => exact ((if_pos hlast).trans (if_neg hzero)).symm
  | case3 _ _ _ _ hlast hleast hzero =>
    refine Eq.symm (((if_neg hlast).trans (if_pos hleast)).trans ?_)
    exact congrArg (Reading.finite _ · _) (congrArg BitVec.toNat hzero)
  | case4 _ stored exponent _ _ hlast hleast =>
    have hexponent : exponent + 1 = -1074 := by
      have h : stored.toNat = 0 := congrArg BitVec.toNat hleast
      simp only [exponent, h]
      rfl
    rw [hexponent]
    exact ((if_neg hlast).trans (if_pos hleast)).symm
  | case5 _ _ _ _ _ hlast hleast =>
    refine Eq.symm (((if_neg hlast).trans (if_neg hleast)).trans ?_)
    exact congrArg (Reading.finite _ · _) (toNat_leading_append _).symm

/-- A number is read off its bits. -/
theorem ofFloat_eq (x : Float) : Reading.ofFloat x = readingOf x.toModel.unpack := by
  let b := x.toModel.toBits.toBitVec
  have hlt : x.toBits.toNat < 2 ^ 64 := x.toBits.toNat_lt
  have hfraction : (@unpackMantissa Format.binary64 b).toNat =
      magnitudeBits x.toBits % leadingBit := by
    have h : (@unpackMantissa Format.binary64 b).toNat = x.toBits.toNat % 2 ^ 52 := by
      simp [unpackMantissa]
      rfl
    rw [h, magnitudeBits, leadingBit]
    omega
  have hstored : (@unpackExponent Format.binary64 b).toNat =
      magnitudeBits x.toBits / leadingBit := by
    have h : (@unpackExponent Format.binary64 b).toNat =
        x.toBits.toNat / 2 ^ 52 % 2 ^ 11 := by
      simp [unpackExponent, Nat.shiftRight_eq_div_pow]
      rfl
    rw [h, magnitudeBits, leadingBit]
    omega
  have hsign : isNegative (Sign.ofBitVec (@unpackSign Format.binary64 b)) =
      signBit x.toBits := by
    have h : (@unpackSign Format.binary64 b).toNat = x.toBits.toNat / 2 ^ 63 := by
      have h : (@unpackSign Format.binary64 b).toNat = x.toBits.toNat / 2 ^ 63 % 2 := by
        simp [unpackSign, Nat.shiftRight_eq_div_pow]
        rfl
      omega
    rw [signBit, Sign.ofBitVec]
    split
    next hzero =>
      have : x.toBits.toNat / 2 ^ 63 = 0 := h.symm.trans (congrArg BitVec.toNat hzero)
      exact (decide_eq_false (by omega)).symm
    next hone =>
      have : x.toBits.toNat / 2 ^ 63 ≠ 0 := fun h' ↦ hone (BitVec.eq_of_toNat_eq (h.trans h'))
      exact (decide_eq_true (by omega)).symm
  have hunpack : x.toModel.unpack = unpack Format.binary64 b := rfl
  rw [hunpack, readingOf_unpack, Reading.ofFloat]
  simp only [hfraction, hstored, hsign, ← BitVec.toNat_inj, BitVec.toNat_ofNat]
  rfl

/-- A number that is read as a finite one is finite, and what is read is its value. -/
theorem value_of_ofFloat_eq {x : Float} {negative : Bool} {significand : ℕ} {exponent : ℤ}
    (h : Reading.ofFloat x = .finite negative significand exponent) :
    x.isFinite ∧ value x = (if negative then -1 else 1) * (significand * 2 ^ exponent) := by
  rw [ofFloat_eq] at h
  rw [Float.isFinite, Float.Model.isFinite, value]
  generalize x.toModel.unpack = u at *
  cases u with
  | notANumber | infinity => cases h
  | zero s =>
    cases h
    refine ⟨rfl, ?_⟩
    rw [valueOf_zero, Nat.cast_zero, zero_mul, mul_zero]
  | finite s m e hm =>
    cases h
    refine ⟨rfl, ?_⟩
    cases s <;> rfl

/-- The size of a number is what is read without the sign. -/
theorem abs_value_of_ofFloat_eq {x : Float} {negative : Bool} {significand : ℕ} {exponent : ℤ}
    (h : Reading.ofFloat x = .finite negative significand exponent) :
    |value x| = significand * 2 ^ exponent := by
  have hsize : (0 : ℚ) ≤ significand * 2 ^ exponent := by positivity
  rw [(value_of_ofFloat_eq h).2]
  cases negative with
  | false => rw [if_neg Bool.false_ne_true, one_mul, abs_of_nonneg hsize]
  | true => rw [if_pos rfl, neg_one_mul, abs_neg, abs_of_nonneg hsize]

/-- A finite number is read as one. -/
theorem exists_ofFloat_eq {x : Float} (h : x.isFinite) :
    ∃ negative significand exponent, Reading.ofFloat x = .finite negative significand exponent := by
  rw [ofFloat_eq]
  rw [Float.isFinite, Float.Model.isFinite] at h
  generalize x.toModel.unpack = u at *
  cases u with
  | notANumber | infinity => cases h
  | zero | finite => exact ⟨_, _, _, rfl⟩

/-! ### The order of the bits -/

/-- The number that bits without a sign stand for. -/
def magnitude (bits : ℕ) : ℚ :=
  if bits / leadingBit = 0 then (bits % leadingBit : ℕ) * 2 ^ (-1074 : ℤ)
  else (leadingBit + bits % leadingBit : ℕ) * 2 ^ ((bits / leadingBit : ℕ) - 1075 : ℤ)

theorem magnitude_add {stored fraction : ℕ} (h : fraction < leadingBit) :
    magnitude (leadingBit * stored + fraction) =
      if stored = 0 then (fraction : ℚ) * 2 ^ (-1074 : ℤ)
      else (leadingBit + fraction : ℕ) * 2 ^ ((stored : ℤ) - 1075) := by
  have hpos : 0 < leadingBit := by decide
  rw [magnitude, Nat.mul_add_div hpos, Nat.div_eq_of_lt h, Nat.add_zero, Nat.mul_add_mod,
    Nat.mod_eq_of_lt h]

/-- Larger bits stand for larger numbers. -/
theorem magnitude_mono : Monotone magnitude := by
  refine monotone_nat_of_le_succ fun bits ↦ ?_
  have hpos : 0 < leadingBit := by decide
  obtain ⟨stored, fraction, hfraction, rfl⟩ : ∃ stored fraction, fraction < leadingBit ∧
      bits = leadingBit * stored + fraction :=
    ⟨_, _, Nat.mod_lt bits hpos, (Nat.div_add_mod bits leadingBit).symm⟩
  rw [magnitude_add hfraction]
  rcases Nat.lt_or_ge (fraction + 1) leadingBit with hlt | hge
  · rw [Nat.add_assoc, magnitude_add hlt]
    split
    · gcongr
      exact Nat.le_succ _
    · gcongr
      exact Nat.le_succ _
  · -- The fraction starts again with the next exponent.
    have hnext : leadingBit * stored + fraction + 1 = leadingBit * (stored + 1) + 0 := by
      rw [Nat.mul_succ]
      omega
    have hle : (fraction : ℚ) ≤ leadingBit := by exact_mod_cast hfraction.le
    rw [hnext, magnitude_add hpos, if_neg (Nat.succ_ne_zero stored)]
    split
    next hzero =>
      subst hzero
      rw [Nat.add_zero]
      norm_num
      gcongr
    next =>
      have hpow : (2 : ℚ) ^ (((stored + 1 : ℕ) : ℤ) - 1075) = 2 * 2 ^ ((stored : ℤ) - 1075) := by
        rw [← zpow_one_add₀ two_ne_zero]
        congr 1
        push_cast
        ring
      rw [hpow, Nat.add_zero, Nat.cast_add, ← mul_assoc]
      gcongr
      linarith

theorem magnitude_nonneg (bits : ℕ) : 0 ≤ magnitude bits := by
  rw [magnitude]
  split <;> positivity

theorem value_eq_magnitude {x : Float} (h : x.isFinite) :
    value x = (if signBit x.toBits then -1 else 1) * magnitude (magnitudeBits x.toBits) := by
  obtain ⟨negative, significand, exponent, hreading⟩ := exists_ofFloat_eq h
  rw [(value_of_ofFloat_eq hreading).2, magnitude]
  rw [Reading.ofFloat] at hreading
  split at hreading
  · split at hreading <;> cases hreading
  · split at hreading
    next hzero =>
      cases hreading
      simp only [if_pos hzero]
    next hpos =>
      cases hreading
      simp only [if_neg hpos]

/-- What is not negative is at least what sorting puts before it. -/
theorem value_le_of_atMost {x y : Float} (hx : x.isFinite) (hy : y.isFinite)
    (hnonneg : 0 ≤ value y) (h : Quantity.atMost x y = true) : value x ≤ value y := by
  have hkey : orderKey x ≤ orderKey y := of_decide_eq_true h
  rw [orderKey, orderKey, patternKey, patternKey] at hkey
  rw [value_eq_magnitude hx]
  cases hsign : signBit x.toBits with
  | true =>
    have := magnitude_nonneg (magnitudeBits x.toBits)
    rw [if_pos rfl]
    linarith
  | false =>
    rw [value_eq_magnitude hy]
    cases hsign' : signBit y.toBits with
    | true =>
      rw [hsign, hsign', if_neg Bool.false_ne_true, if_pos rfl] at hkey
      omega
    | false =>
      rw [hsign, hsign', if_neg Bool.false_ne_true, if_neg Bool.false_ne_true] at hkey
      rw [if_neg Bool.false_ne_true, one_mul, one_mul]
      exact magnitude_mono (Int.ofNat_le.1 hkey)

end Binary64

end LatencyCurve
