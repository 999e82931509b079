import LatencyCurve.Proofs.Distribution
import LatencyCurve.Proofs.Interpolation

/-!
# Percentiles and the curve agree

The curve counts ranks from one, a percentile counts them from zero, and a percentile between two
ranks is no value of the list at all. What ties the two together is counting: the values up to the
rank below a percentile are at most the percentile, and those from the rank above it on are at least
the percentile (`succ_le_countAtMost`, `length_le_countP_add`). So with `h` the rank of a percentile
among `N` values, at least `⌊h⌋ + 1` of them are at most the percentile, and there the curve has
reached at least `(⌊h⌋ + 1) / N`.
-/

namespace LatencyCurve

variable {sorted : List ℚ}

/-! ### Counting from a rank -/

/-- Each value is below a threshold or at least as large. -/
theorem countP_lt_add_countP_le (values : List ℚ) (v : ℚ) :
    values.countP (· < v) + values.countP (v ≤ ·) = values.length := by
  rw [List.length_eq_countP_add_countP (· < v)]
  exact congrArg _ (List.countP_congr fun x _ ↦ by simp)

/-- The values up to a rank are at most what the value there is at most. -/
theorem succ_le_countAtMost (hasc : sorted.Pairwise (· ≤ ·)) {i : ℕ} {low v : ℚ}
    (hlow : sorted[i]? = some low) (hv : low ≤ v) : i + 1 ≤ countAtMost sorted v := by
  obtain ⟨hi, -⟩ := List.getElem?_eq_some_iff.1 hlow
  have hall : ∀ x ∈ sorted.take (i + 1), Quantity.atMost x v = true := by
    intro x hx
    obtain ⟨j, hj, rfl⟩ := List.mem_take_iff_getElem.1 hx
    have hx : sorted[j]? = some sorted[j] := List.getElem?_eq_getElem _
    exact decide_eq_true ((le_of_places hasc (by omega) hx hlow).trans hv)
  calc i + 1 = (sorted.take (i + 1)).length := by rw [List.length_take, min_eq_left hi]
    _ = countAtMost (sorted.take (i + 1)) v := (List.countP_eq_length.2 hall).symm
    _ ≤ countAtMost sorted v := (List.take_sublist _ _).countP_le

/-- The values from a rank on are at least what the value there is at least. -/
theorem length_le_countP_add (hasc : sorted.Pairwise (· ≤ ·)) {j : ℕ} {high v : ℚ}
    (hhigh : sorted[j]? = some high) (hv : v ≤ high) :
    sorted.length ≤ sorted.countP (v ≤ ·) + j := by
  have hall : ∀ x ∈ sorted.drop j, decide (v ≤ x) = true := by
    intro x hx
    obtain ⟨k, hk, rfl⟩ := List.mem_drop_iff_getElem.1 hx
    have hx : sorted[j + k]? = some sorted[j + k] := List.getElem?_eq_getElem _
    exact decide_eq_true (hv.trans (le_of_places hasc (Nat.le_add_right j k) hhigh hx))
  have hcount : sorted.length - j ≤ sorted.countP (v ≤ ·) :=
    calc sorted.length - j = (sorted.drop j).length := List.length_drop.symm
      _ = (sorted.drop j).countP (v ≤ ·) := (List.countP_eq_length.2 hall).symm
      _ ≤ sorted.countP (v ≤ ·) := (List.drop_sublist _ _).countP_le
  omega

/-! ### Percentiles on the curve -/

/-- **Percentiles and the curve agree.** Let `h` be the rank of a percentile `v` of `N` ascending
values. At least `⌊h⌋ + 1` of the values are at most `v`, all but `⌈h⌉` are at least `v`, and no more
than `⌈h⌉` are below it. So the curve has a point up to `v`, and the last one is at least as high as
the share of `⌊h⌋ + 1` values. -/
theorem percentile_agrees_with_curve (hne : sorted ≠ []) (hasc : sorted.Pairwise (· ≤ ·)) {p : ℚ}
    (hp : 0 ≤ p) (hp' : p ≤ 100) :
    let h : ℚ := p / 100 * (sorted.length - 1)
    ∃ v, percentile? sorted p = some v ∧
      ⌊h⌋₊ + 1 ≤ sorted.countP (· ≤ v) ∧
      sorted.length ≤ sorted.countP (v ≤ ·) + ⌈h⌉₊ ∧
      sorted.countP (· < v) ≤ ⌈h⌉₊ ∧
      ∃ points : List (CurvePoint ℚ ℚ), curveOfSorted sorted = .ok points ∧
        ∃ q, (pointsUpTo points v).getLast? = some q ∧
          (⌊h⌋₊ + 1 : ℚ) / sorted.length ≤ q.fraction := by
  intro h
  have hcount : sorted.length ≠ 0 := mt List.length_eq_zero_iff.1 hne
  have hrank : percentileRank sorted.length p = h := by
    rw [percentileRank_exact, clampPercent_of_mem hp hp']
  obtain ⟨v, hv⟩ := exists_percentile? hne p
  have hv' : valueAt? sorted h = some v := by rw [← hrank, ← percentile?_exact, hv]
  obtain ⟨low, high, hlow, hhigh, -⟩ := valueAt?_eq_some_iff.1 hv'
  have hnonneg : 0 ≤ h := hrank ▸ percentileRank_nonneg hcount p
  obtain ⟨hlowv, hvhigh⟩ := valueAt?_mem hasc hnonneg hv' hlow hhigh
  have hbelow : ⌊h⌋₊ + 1 ≤ countAtMost sorted v := succ_le_countAtMost hasc hlow hlowv
  have habove : sorted.length ≤ sorted.countP (v ≤ ·) + ⌈h⌉₊ :=
    length_le_countP_add hasc hhigh hvhigh
  refine ⟨v, hv, hbelow, habove, ?_, curvePoints sorted, if_neg hne, ?_⟩
  · have := countP_lt_add_countP_le sorted v
    omega
  · have hsome : countAtMost sorted v ≠ 0 := by omega
    obtain ⟨q, hq, hfraction⟩ : ∃ q : CurvePoint ℚ ℚ, _ ∧ _ :=
      exists_getLast?_pointsUpTo (pairwise_atMost_iff.2 hasc) hsome
    refine ⟨q, hq, ?_⟩
    rw [hfraction, ofNat_exact, ofNat_exact]
    gcongr
    exact_mod_cast hbelow

/-- The median of four values is none of them: two values are at most it, and up to there the curve
reaches at least one half. -/
theorem median_agrees_with_curve :
    let sorted : List ℚ := [1, 2, 4, 100]
    sorted ≠ [] ∧ sorted.Pairwise (· ≤ ·) ∧ (0 : ℚ) ≤ 50 ∧ (50 : ℚ) ≤ 100 ∧
      ∃ v, percentile? sorted 50 = some v ∧ 2 ≤ sorted.countP (· ≤ v) ∧
        ∃ points : List (CurvePoint ℚ ℚ), curveOfSorted sorted = .ok points ∧
          ∃ q, (pointsUpTo points v).getLast? = some q ∧ 2 / 4 ≤ q.fraction := by
  intro sorted
  have hne : sorted ≠ [] := List.cons_ne_nil _ _
  have hasc : sorted.Pairwise (· ≤ ·) := by decide
  have hrank : ⌊(50 / 100 * (sorted.length - 1) : ℚ)⌋₊ = 1 := by decide +kernel
  obtain ⟨v, hv, hbelow, -, -, points, hpoints, q, hq, hfraction⟩ :=
    percentile_agrees_with_curve (p := 50) hne hasc (by norm_num) (by norm_num)
  rw [hrank] at hbelow hfraction
  refine ⟨hne, hasc, by norm_num, by norm_num, v, hv, hbelow, points, hpoints, q, hq, ?_⟩
  calc (2 / 4 : ℚ) = ((1 : ℕ) + 1 : ℚ) / sorted.length := by norm_num [sorted]
    _ ≤ q.fraction := hfraction

end LatencyCurve
