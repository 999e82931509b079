import LatencyCurve.Proofs.Exact
import Mathlib.Tactic.FieldSimp
import Mathlib.Tactic.Linarith

/-!
# Values between ranks

A percentile is the value at a rank that need not be whole: it lies on the line through the values
at the two whole ranks around it (`valueAt?`). Over ascending values such a line never falls, and
two lines meet in the value at the rank between them; so the value grows with the rank
(`valueAt?_mono`). The step across a rank is where the two halves of the argument differ: there the
later value is compared with the earlier one through a value of the list, and only ranks between the
same two whole ones are compared on their line.

`percentile?_exact` says that an exact percentile is the value at its rank, and the rank is always
one of those there are (`ceil_percentileRank_lt`).
-/

namespace LatencyCurve

/-! ### The value at a rank -/

/-- The value at a rank, counted from zero: on the line through the values at the whole ranks around
it, and the value there if the rank is whole itself. -/
def valueAt? (sorted : List ℚ) (rank : ℚ) : Option ℚ :=
  match sorted[⌊rank⌋₊]?, sorted[⌈rank⌉₊]? with
  | some low, some high => some (low + (rank - ⌊rank⌋₊) * (high - low))
  | _, _ => none

theorem valueAt?_eq_some_iff {sorted : List ℚ} {rank v : ℚ} :
    valueAt? sorted rank = some v ↔ ∃ low high, sorted[⌊rank⌋₊]? = some low ∧
      sorted[⌈rank⌉₊]? = some high ∧ low + (rank - ⌊rank⌋₊) * (high - low) = v := by
  rw [valueAt?]
  split
  next low high hlow hhigh => simp [hlow, hhigh]
  next h =>
    constructor
    · nofun
    · rintro ⟨low, high, hlow, hhigh, -⟩
      exact (h low high hlow hhigh).elim

/-- There is a value at each rank up to the last one. -/
theorem exists_valueAt? {sorted : List ℚ} {rank : ℚ} (h : ⌈rank⌉₊ < sorted.length) :
    ∃ v, valueAt? sorted rank = some v := by
  have hlow : ⌊rank⌋₊ < sorted.length := (Nat.floor_le_ceil rank).trans_lt h
  exact ⟨_, valueAt?_eq_some_iff.2
    ⟨_, _, List.getElem?_eq_getElem hlow, List.getElem?_eq_getElem h, rfl⟩⟩

/-- At a whole rank it is the value of the list. -/
theorem valueAt?_natCast (sorted : List ℚ) (i : ℕ) : valueAt? sorted i = sorted[i]? := by
  rw [valueAt?, Nat.floor_natCast, Nat.ceil_natCast]
  cases sorted[i]? <;> simp

section Ascending

variable {sorted : List ℚ} (hasc : sorted.Pairwise (· ≤ ·))
include hasc

/-- The value at a rank lies between those at the whole ranks around it. -/
theorem valueAt?_mem {rank v low high : ℚ} (hrank : 0 ≤ rank) (hv : valueAt? sorted rank = some v)
    (hlow : sorted[⌊rank⌋₊]? = some low) (hhigh : sorted[⌈rank⌉₊]? = some high) :
    low ≤ v ∧ v ≤ high := by
  obtain ⟨low', high', hlow', hhigh', rfl⟩ := valueAt?_eq_some_iff.1 hv
  obtain rfl : low = low' := Option.some.inj (hlow.symm.trans hlow')
  obtain rfl : high = high' := Option.some.inj (hhigh.symm.trans hhigh')
  have hrise : 0 ≤ high - low :=
    sub_nonneg.2 (le_of_places hasc (Nat.floor_le_ceil rank) hlow hhigh)
  have hweight : 0 ≤ rank - ⌊rank⌋₊ := sub_nonneg.2 (Nat.floor_le hrank)
  have hweight' : rank - ⌊rank⌋₊ ≤ 1 := (sub_lt_iff_lt_add'.2 (Nat.lt_floor_add_one rank)).le
  constructor
  · linarith [mul_nonneg hweight hrise]
  · linarith [mul_le_mul_of_nonneg_right hweight' hrise]

/-- **Later ranks have no smaller values.** -/
theorem valueAt?_mono {r s v w : ℚ} (hr : 0 ≤ r) (hrs : r ≤ s) (hv : valueAt? sorted r = some v)
    (hw : valueAt? sorted s = some w) : v ≤ w := by
  obtain ⟨low, high, hlow, hhigh, hv'⟩ := valueAt?_eq_some_iff.1 hv
  obtain ⟨low', high', hlow', hhigh', hw'⟩ := valueAt?_eq_some_iff.1 hw
  obtain hseam | hinside := le_or_gt ⌈r⌉₊ ⌊s⌋₊
  -- A whole rank lies between the two, and its value between their values.
  · calc v ≤ high := (valueAt?_mem hasc hr hv hlow hhigh).2
      _ ≤ low' := le_of_places hasc hseam hhigh hlow'
      _ ≤ w := (valueAt?_mem hasc (hr.trans hrs) hw hlow' hhigh').1
  -- Otherwise the two lie between the same whole ranks, on one line.
  · have hfloor : ⌊s⌋₊ = ⌊r⌋₊ := by
      have := Nat.floor_mono hrs
      have := Nat.ceil_le_floor_add_one r
      omega
    have hceil : ⌈s⌉₊ = ⌈r⌉₊ := by
      have := Nat.ceil_mono hrs
      have := Nat.ceil_le_floor_add_one s
      omega
    rw [hfloor] at hlow' hw'
    rw [hceil] at hhigh'
    obtain rfl : low = low' := Option.some.inj (hlow.symm.trans hlow')
    obtain rfl : high = high' := Option.some.inj (hhigh.symm.trans hhigh')
    have hrise : 0 ≤ high - low :=
      sub_nonneg.2 (le_of_places hasc (Nat.floor_le_ceil r) hlow hhigh)
    rw [← hv', ← hw']
    gcongr

end Ascending

/-! ### The rank of a percentile -/

theorem clampPercent_exact (p : ℚ) : clampPercent p = max 0 (min p 100) := by
  simp only [clampPercent, Quantity.lt, ofNat_exact, decide_eq_true_eq, Nat.cast_zero,
    Nat.cast_ofNat]
  split
  next hpos =>
    split
    next hlarge => rw [min_eq_right hlarge.le, max_eq_right (by norm_num)]
    next hsmall => rw [min_eq_left (not_lt.1 hsmall), max_eq_right hpos.le]
  next hneg => rw [max_eq_left ((min_le_left _ _).trans (not_lt.1 hneg))]

theorem clampPercent_nonneg (p : ℚ) : 0 ≤ clampPercent p := by
  rw [clampPercent_exact]
  exact le_max_left _ _

theorem clampPercent_le (p : ℚ) : clampPercent p ≤ 100 := by
  rw [clampPercent_exact]
  exact max_le (by norm_num) (min_le_right _ _)

theorem clampPercent_mono {p q : ℚ} (h : p ≤ q) : clampPercent p ≤ clampPercent q := by
  rw [clampPercent_exact, clampPercent_exact]
  exact max_le_max_left _ (min_le_min_right _ h)

theorem clampPercent_of_mem {p : ℚ} (h : 0 ≤ p) (h' : p ≤ 100) : clampPercent p = p := by
  rw [clampPercent_exact, min_eq_left h', max_eq_right h]

theorem clampPercent_of_nonpos {p : ℚ} (h : p ≤ 0) : clampPercent p = 0 := by
  rw [clampPercent_exact, max_eq_left ((min_le_left _ _).trans h)]

theorem clampPercent_of_hundred_le {p : ℚ} (h : 100 ≤ p) : clampPercent p = 100 := by
  rw [clampPercent_exact, min_eq_right h, max_eq_right (by norm_num)]

theorem percentileRank_exact (count : ℕ) (p : ℚ) :
    percentileRank count p = clampPercent p / 100 * (count - 1) := by
  simp [percentileRank, ofNat_exact]

section Count

variable {count : ℕ} (hcount : count ≠ 0)
include hcount

theorem cast_pred_nonneg : (0 : ℚ) ≤ count - 1 :=
  sub_nonneg.2 (by exact_mod_cast Nat.one_le_iff_ne_zero.2 hcount)

theorem percentileRank_nonneg (p : ℚ) : 0 ≤ percentileRank count p := by
  rw [percentileRank_exact]
  exact mul_nonneg (div_nonneg (clampPercent_nonneg p) (by norm_num)) (cast_pred_nonneg hcount)

theorem percentileRank_mono {p q : ℚ} (h : p ≤ q) :
    percentileRank count p ≤ percentileRank count q := by
  rw [percentileRank_exact, percentileRank_exact]
  exact mul_le_mul_of_nonneg_right
    (div_le_div_of_nonneg_right (clampPercent_mono h) (by norm_num)) (cast_pred_nonneg hcount)

/-- No rank is out of range. -/
theorem ceil_percentileRank_lt (p : ℚ) : ⌈percentileRank count p⌉₊ < count := by
  have hle : percentileRank count p ≤ (count - 1 : ℕ) := by
    rw [percentileRank_exact, Nat.cast_sub (Nat.one_le_iff_ne_zero.2 hcount), Nat.cast_one]
    exact mul_le_of_le_one_left (cast_pred_nonneg hcount) (by linarith [clampPercent_le p])
  have := Nat.ceil_le.2 hle
  omega

theorem percentileRank_of_hundred_le {p : ℚ} (h : 100 ≤ p) :
    percentileRank count p = (count - 1 : ℕ) := by
  rw [percentileRank_exact, clampPercent_of_hundred_le h,
    Nat.cast_sub (Nat.one_le_iff_ne_zero.2 hcount)]
  simp

end Count

theorem percentileRank_of_nonpos (count : ℕ) {p : ℚ} (h : p ≤ 0) :
    percentileRank count p = (0 : ℕ) := by
  simp [percentileRank_exact, clampPercent_of_nonpos h]

/-- The `i`-th of `n` equal parts of one hundred stands at the rank `i`. -/
theorem percentileRank_of_part {count i : ℕ} (hcount : 2 ≤ count) (hi : i < count) :
    percentileRank count (100 * i / (count - 1) : ℚ) = i := by
  have hparts : (0 : ℚ) < count - 1 := sub_pos.2 (by exact_mod_cast hcount)
  have hle : (i : ℚ) ≤ count - 1 := le_sub_iff_add_le.2 (by exact_mod_cast hi)
  have hpercent : (100 * i / (count - 1) : ℚ) ≤ 100 := by
    rw [div_le_iff₀ hparts]
    linarith
  rw [percentileRank_exact, clampPercent_of_mem (by positivity) hpercent]
  field_simp

/-! ### Exact percentiles -/

/-- **A percentile is the value at its rank.** Where the rank is whole the value is taken from the
list and not from a line, which is the same. -/
theorem percentile?_exact (sorted : List ℚ) (p : ℚ) :
    percentile? sorted p = valueAt? sorted (percentileRank sorted.length p) := by
  simp only [percentile?, valueAt?, floor_exact, ceil_exact]
  generalize percentileRank sorted.length p = rank
  cases hlow : sorted[⌊rank⌋₊]? with
  | none => rfl
  | some low =>
    cases hhigh : sorted[⌈rank⌉₊]? with
    | none => rfl
    | some high =>
      by_cases hwhole : ⌊rank⌋₊ = ⌈rank⌉₊
      · have hsame : low = high := Option.some.inj (hlow.symm.trans (hwhole ▸ hhigh))
        simp [hwhole, hsame]
      · simp [hwhole, ofNat_exact]

theorem percentile?_clampPercent (sorted : List ℚ) (p : ℚ) :
    percentile? sorted (clampPercent p) = percentile? sorted p := by
  have hrank : percentileRank sorted.length (clampPercent p) = percentileRank sorted.length p := by
    rw [percentileRank_exact, percentileRank_exact,
      clampPercent_of_mem (clampPercent_nonneg p) (clampPercent_le p)]
  rw [percentile?_exact, percentile?_exact, hrank]

variable {sorted : List ℚ}

theorem percentile?_of_nonpos {p : ℚ} (h : p ≤ 0) : percentile? sorted p = sorted.head? := by
  rw [percentile?_exact, percentileRank_of_nonpos _ h, valueAt?_natCast, List.head?_eq_getElem?]

theorem percentile?_of_hundred_le (hne : sorted ≠ []) {p : ℚ} (h : 100 ≤ p) :
    percentile? sorted p = sorted.getLast? := by
  have hcount : sorted.length ≠ 0 := mt List.length_eq_zero_iff.1 hne
  rw [percentile?_exact, percentileRank_of_hundred_le hcount h, valueAt?_natCast,
    List.getLast?_eq_getElem?]

theorem percentile?_of_part {i : ℕ} (hi : i < sorted.length) (hcount : 2 ≤ sorted.length) :
    percentile? sorted (100 * i / (sorted.length - 1) : ℚ) = some sorted[i] := by
  rw [percentile?_exact, percentileRank_of_part hcount hi, valueAt?_natCast,
    List.getElem?_eq_getElem hi]

/-- Values that are there have every percentile. -/
theorem exists_percentile? (hne : sorted ≠ []) (p : ℚ) : ∃ v, percentile? sorted p = some v := by
  rw [percentile?_exact]
  exact exists_valueAt? (ceil_percentileRank_lt (mt List.length_eq_zero_iff.1 hne) p)

theorem percentile?_mono (hne : sorted ≠ []) (hasc : sorted.Pairwise (· ≤ ·)) {p q v w : ℚ}
    (hpq : p ≤ q) (hv : percentile? sorted p = some v) (hw : percentile? sorted q = some w) :
    v ≤ w := by
  have hcount : sorted.length ≠ 0 := mt List.length_eq_zero_iff.1 hne
  rw [percentile?_exact] at hv hw
  exact valueAt?_mono hasc (percentileRank_nonneg hcount p) (percentileRank_mono hcount hpq) hv hw

end LatencyCurve
