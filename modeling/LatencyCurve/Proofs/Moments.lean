import LatencyCurve.Proofs.Exact
import Mathlib.Algebra.BigOperators.Ring.List
import Mathlib.Algebra.Order.BigOperators.Group.List
import Mathlib.Order.Bounds.Basic
import Mathlib.Tactic.FieldSimp
import Mathlib.Tactic.Linarith
import Mathlib.Tactic.Ring

/-!
# Mean and variance of a summary

The exact mean and variance of values that are there. Everything is said of sums: the squared
distances from any centre add up to `squares xs c` (`squares_eq`), the variance is the least mean of
such squares (`squares_mean_le`), and taken from the middle of the range no square is larger than a
quarter of the squared range. So the variance is at most that, and it is zero only where all values
are equal. It is the variance of the values themselves, not an estimate from a sample: copying the
values changes nothing (`moments_of_summary`).
-/

namespace LatencyCurve

/-! ### Sums of squares -/

/-- The sum of the squared distances from a centre. -/
def squares (xs : List ℚ) (centre : ℚ) : ℚ :=
  (xs.map fun x ↦ (x - centre) ^ 2).sum

theorem squares_eq (xs : List ℚ) (centre : ℚ) :
    squares xs centre = (xs.map (· ^ 2)).sum - 2 * centre * xs.sum + xs.length * centre ^ 2 := by
  induction xs with
  | nil => simp [squares]
  | cons x xs ih =>
    rw [squares] at ih
    simp only [squares, List.map_cons, List.sum_cons, List.length_cons, Nat.cast_succ, ih]
    ring

theorem sq_mem_nonneg {xs : List ℚ} {centre : ℚ} :
    ∀ y ∈ xs.map fun x ↦ (x - centre) ^ 2, 0 ≤ y := by
  intro y hy
  obtain ⟨x, -, rfl⟩ := List.mem_map.1 hy
  exact sq_nonneg _

theorem squares_nonneg (xs : List ℚ) (centre : ℚ) : 0 ≤ squares xs centre :=
  List.sum_nonneg sq_mem_nonneg

theorem squares_eq_zero_iff {xs : List ℚ} {centre : ℚ} :
    squares xs centre = 0 ↔ ∀ x ∈ xs, x = centre := by
  constructor
  · intro h x hx
    have hzero : (x - centre) ^ 2 = 0 :=
      List.all_zero_of_le_zero_le_of_sum_eq_zero sq_mem_nonneg h (List.mem_map_of_mem hx)
    exact sub_eq_zero.1 (pow_eq_zero_iff two_ne_zero |>.1 hzero)
  · intro h
    refine List.sum_eq_zero fun y hy ↦ ?_
    obtain ⟨x, hx, rfl⟩ := List.mem_map.1 hy
    rw [h x hx, sub_self, zero_pow two_ne_zero]

/-! ### Mean and variance -/

theorem mean_exact (xs : List ℚ) : mean xs = xs.sum / xs.length := by
  rw [mean, sum_exact, ofNat_exact]

theorem variance_exact (xs : List ℚ) : variance xs = squares xs (mean xs) / xs.length := by
  simp only [variance, sum_exact, ofNat_exact, squares, pow_two]

theorem variance_nonneg (xs : List ℚ) : 0 ≤ variance xs := by
  rw [variance_exact]
  exact div_nonneg (squares_nonneg _ _) (Nat.cast_nonneg _)

section Values

variable {xs : List ℚ} (hne : xs ≠ [])
include hne

theorem cast_length_pos : (0 : ℚ) < xs.length :=
  Nat.cast_pos.2 (List.length_pos_iff.2 hne)

theorem length_mul_mean : xs.length * mean xs = xs.sum := by
  rw [mean_exact, mul_div_cancel₀ _ (cast_length_pos hne).ne']

/-- The mean of values that are within bounds is within them. -/
theorem mean_mem {low high : ℚ} (hlow : ∀ x ∈ xs, low ≤ x) (hhigh : ∀ x ∈ xs, x ≤ high) :
    low ≤ mean xs ∧ mean xs ≤ high := by
  have hpos := cast_length_pos hne
  have hleast := List.card_nsmul_le_sum xs low hlow
  have hmost := List.sum_le_card_nsmul xs high hhigh
  rw [nsmul_eq_mul, mul_comm] at hleast hmost
  rw [mean_exact, le_div_iff₀ hpos, div_le_iff₀ hpos]
  exact ⟨hleast, hmost⟩

/-- What another centre than the mean adds. -/
theorem squares_sub_squares_mean (centre : ℚ) :
    squares xs centre - squares xs (mean xs) = xs.length * (centre - mean xs) ^ 2 := by
  rw [squares_eq, squares_eq, ← length_mul_mean hne]
  ring

/-- **The mean is the best centre.** -/
theorem squares_mean_le (centre : ℚ) : squares xs (mean xs) ≤ squares xs centre := by
  have hgap := squares_sub_squares_mean hne centre
  have := mul_nonneg (cast_length_pos hne).le (sq_nonneg (centre - mean xs))
  linarith

theorem variance_eq : variance xs = (xs.map (· ^ 2)).sum / xs.length - mean xs ^ 2 := by
  have hlength := (cast_length_pos hne).ne'
  rw [variance_exact, squares_eq, ← length_mul_mean hne]
  field_simp
  ring

/-- The variance of values within bounds is at most a quarter of the squared distance of the
bounds. -/
theorem variance_le {low high : ℚ} (hlow : ∀ x ∈ xs, low ≤ x) (hhigh : ∀ x ∈ xs, x ≤ high) :
    variance xs ≤ (high - low) ^ 2 / 4 := by
  -- From the middle of the range every value is at most half the range away.
  have hnear : ∀ y ∈ xs.map fun x ↦ (x - (low + high) / 2) ^ 2, y ≤ (high - low) ^ 2 / 4 := by
    intro y hy
    obtain ⟨x, hx, rfl⟩ := List.mem_map.1 hy
    have := mul_nonneg (sub_nonneg.2 (hlow x hx)) (sub_nonneg.2 (hhigh x hx))
    linarith
  have hsum := List.sum_le_card_nsmul _ _ hnear
  rw [List.length_map, nsmul_eq_mul, mul_comm] at hsum
  rw [variance_exact, div_le_iff₀ (cast_length_pos hne)]
  exact (squares_mean_le hne _).trans hsum

theorem variance_eq_zero_iff : variance xs = 0 ↔ ∀ x ∈ xs, ∀ y ∈ xs, x = y := by
  rw [variance_exact, div_eq_zero_iff, or_iff_left (cast_length_pos hne).ne', squares_eq_zero_iff]
  constructor
  · intro h x hx y hy
    rw [h x hx, h y hy]
  · intro h x hx
    obtain ⟨hle, hge⟩ := mean_mem hne (fun y hy ↦ (h x hx y hy).le) fun y hy ↦ (h y hy x hx).le
    exact le_antisymm hle hge

end Values

/-! ### Extremes -/

section Extremes

variable {xs : List ℚ} (hne : xs ≠ []) (hasc : xs.Pairwise (· ≤ ·))
include hasc

theorem isLeast_head : IsLeast {x | x ∈ xs} (xs.head hne) := by
  refine ⟨List.head_mem hne, fun x hx ↦ ?_⟩
  obtain ⟨i, hi, rfl⟩ := List.getElem_of_mem hx
  refine le_of_places hasc (Nat.zero_le i) ?_ (List.getElem?_eq_getElem hi)
  rw [← List.head?_eq_getElem?, List.head?_eq_some_head hne]

theorem isGreatest_getLast : IsGreatest {x | x ∈ xs} (xs.getLast hne) := by
  refine ⟨List.getLast_mem hne, fun x hx ↦ ?_⟩
  obtain ⟨i, hi, rfl⟩ := List.getElem_of_mem hx
  refine le_of_places hasc (Nat.le_pred_of_lt hi) (List.getElem?_eq_getElem hi) ?_
  rw [Nat.pred_eq_sub_one, ← List.getLast?_eq_getElem?, List.getLast?_eq_some_getLast hne]

end Extremes

/-! ### Copies -/

/-- A number of copies of some values, sorted again. -/
def copies (k : ℕ) (xs : List ℚ) : List ℚ :=
  (List.replicate k xs).flatten.mergeSort Quantity.atMost

theorem copies_perm (k : ℕ) (xs : List ℚ) : (copies k xs).Perm (List.replicate k xs).flatten :=
  List.mergeSort_perm _ _

theorem pairwise_copies (k : ℕ) (xs : List ℚ) : (copies k xs).Pairwise (· ≤ ·) :=
  pairwise_atMost_iff.1
    (List.pairwise_mergeSort Quantity.atMost_trans Quantity.atMost_total _)

theorem length_copies (k : ℕ) (xs : List ℚ) : (copies k xs).length = k * xs.length := by
  rw [(copies_perm k xs).length_eq]
  simp

theorem mem_copies {k : ℕ} (hk : k ≠ 0) {xs : List ℚ} {x : ℚ} : x ∈ copies k xs ↔ x ∈ xs := by
  rw [(copies_perm k xs).mem_iff]
  simp [hk]

/-- Whatever is added up over the values is added up that many times over the copies. -/
theorem sum_map_copies (k : ℕ) (xs : List ℚ) (f : ℚ → ℚ) :
    ((copies k xs).map f).sum = k * (xs.map f).sum := by
  rw [((copies_perm k xs).map f).sum_eq, List.map_flatten, List.sum_flatten]
  simp

section Copies

variable {k : ℕ} (hk : k ≠ 0)
include hk

theorem copies_ne_nil {xs : List ℚ} (hne : xs ≠ []) : copies k xs ≠ [] := by
  obtain ⟨x, hx⟩ := List.exists_mem_of_ne_nil xs hne
  exact List.ne_nil_of_mem ((mem_copies hk).2 hx)

theorem mean_map_copies (xs : List ℚ) (f : ℚ → ℚ) :
    ((copies k xs).map f).sum / (copies k xs).length = (xs.map f).sum / xs.length := by
  rw [sum_map_copies, length_copies, Nat.cast_mul, mul_div_mul_left _ _ (Nat.cast_ne_zero.2 hk)]

theorem mean_copies (xs : List ℚ) : mean (copies k xs) = mean xs := by
  have h := mean_map_copies hk xs id
  rwa [List.map_id, List.map_id, ← mean_exact, ← mean_exact] at h

theorem variance_copies {xs : List ℚ} (hne : xs ≠ []) : variance (copies k xs) = variance xs := by
  rw [variance_eq (copies_ne_nil hk hne), variance_eq hne, mean_map_copies hk, mean_copies hk]

end Copies

/-! ### The moments of a summary -/

/-- A summary, taken before the square root, has the mean and variance of its values. -/
structure HasMoments (xs : List ℚ) (s : Summary ℚ) : Prop where
  /-- Every value is counted. -/
  count_eq : s.count = xs.length
  /-- The mean, counted for each value, is the sum. -/
  count_mul_mean : s.count * s.mean = xs.sum
  /-- The mean lies between the extremes. -/
  mean_mem : s.min ≤ s.mean ∧ s.mean ≤ s.max
  /-- The variance is the mean of the squares without the square of the mean. -/
  variance_eq : s.deviation = (xs.map (· ^ 2)).sum / xs.length - s.mean ^ 2
  /-- It is not negative, and at most a quarter of the squared range. -/
  variance_mem : 0 ≤ s.deviation ∧ s.deviation ≤ (s.max - s.min) ^ 2 / 4
  /-- Only values that are all equal have none. -/
  variance_eq_zero_iff : s.deviation = 0 ↔ ∀ x ∈ xs, ∀ y ∈ xs, x = y

/-- **Moments of a summary.** The summary of ascending values, with the variance in place of its
root, has their mean and variance. Any root is taken from that variance, and summarizing copies of
the values changes neither the extremes nor the moments. -/
theorem moments_of_summary {xs : List ℚ} (hne : xs ≠ []) (hasc : xs.Pairwise (· ≤ ·)) :
    ∃ s, Summary.ofSortedWith id xs = .ok s ∧ HasMoments xs s ∧
      (∀ root, Summary.ofSortedWith root xs = .ok { s with deviation := root s.deviation }) ∧
      ∀ k, 1 ≤ k → ∃ t, Summary.ofSortedWith id (copies k xs) = .ok t ∧ t.count = k * s.count ∧
        t.min = s.min ∧ t.max = s.max ∧ t.mean = s.mean ∧ t.deviation = s.deviation := by
  have hleast : IsLeast {x | x ∈ xs} (xs.head hne) := isLeast_head hne hasc
  have hgreatest : IsGreatest {x | x ∈ xs} (xs.getLast hne) := isGreatest_getLast hne hasc
  refine ⟨_, Summary.ofSortedWith_eq hne, ?_, fun root ↦ Summary.ofSortedWith_eq hne,
    fun k hk ↦ ?_⟩
  · exact
      { count_eq := rfl
        count_mul_mean := length_mul_mean hne
        mean_mem := mean_mem hne hleast.2 hgreatest.2
        variance_eq := variance_eq hne
        variance_mem := ⟨variance_nonneg xs, variance_le hne hleast.2 hgreatest.2⟩
        variance_eq_zero_iff := variance_eq_zero_iff hne }
  · have hk : k ≠ 0 := Nat.one_le_iff_ne_zero.1 hk
    have hcopies : copies k xs ≠ [] := copies_ne_nil hk hne
    have hmem : {x | x ∈ copies k xs} = {x | x ∈ xs} := Set.ext fun x ↦ mem_copies hk
    refine ⟨_, Summary.ofSortedWith_eq hcopies, length_copies k xs, ?_, ?_, mean_copies hk xs,
      variance_copies hk hne⟩
    · exact (hmem ▸ isLeast_head hcopies (pairwise_copies k xs)).unique hleast
    · exact (hmem ▸ isGreatest_getLast hcopies (pairwise_copies k xs)).unique hgreatest

/-- Two values that differ have a variance, and three copies of them have the same one. -/
theorem moments_of_two_values :
    let xs : List ℚ := [1, 4]
    xs ≠ [] ∧ xs.Pairwise (· ≤ ·) ∧ ∃ s, Summary.ofSortedWith id xs = .ok s ∧
      s.count * s.mean = 5 ∧ s.deviation = 17 / 2 - s.mean ^ 2 ∧ s.deviation ≠ 0 ∧
      ∃ t, Summary.ofSortedWith id (copies 3 xs) = .ok t ∧ t.count = 3 * s.count ∧
        t.deviation = s.deviation := by
  intro xs
  have hne : xs ≠ [] := List.cons_ne_nil _ _
  have hasc : xs.Pairwise (· ≤ ·) := by decide
  obtain ⟨s, hs, hmoments, -, hcopies⟩ := moments_of_summary hne hasc
  obtain ⟨t, ht, hcount, -, -, -, hdeviation⟩ := hcopies 3 (by decide)
  refine ⟨hne, hasc, s, hs, ?_, ?_, ?_, t, ht, hcount, hdeviation⟩
  · rw [hmoments.count_mul_mean]
    norm_num [xs]
  · rw [hmoments.variance_eq]
    norm_num [xs]
  · rw [Ne, hmoments.variance_eq_zero_iff]
    decide

end LatencyCurve
