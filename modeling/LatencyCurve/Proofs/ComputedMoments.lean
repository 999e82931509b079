import LatencyCurve.Proofs.FloatArithmetic
import LatencyCurve.Proofs.Moments

/-!
# Mean and variance in binary64

The mean and the variance that a program computes differ from the exact ones, which the same
definitions give for exact numbers. For up to `2 ^ 40` values the difference is small against a
bound `B` of the values: the mean is off by at most a `2 ^ 8`th part of it (`near_mean`), the
variance by a sixteenth of its square (`near_variance`). These are wide margins, and enough to keep
the standard deviation of values from zero to `B`, which is at most half of that, below three
quarters (`value_sqrt_variance_le`).

All this is about results that are finite. Then everything on the way has been finite, too.
-/

namespace LatencyCurve

namespace Binary64

/-- A number near one that is bounded. -/
theorem Near.abs_sub_le {r x B : ℚ} (h : Near r x) (hx : |x| ≤ B) (hB : 1 ≤ B) :
    |r - x| ≤ B / 2 ^ 51 := by
  have hleast : (2 : ℚ) ^ (-1074 : ℤ) ≤ 2 ^ (-52 : ℤ) :=
    zpow_le_zpow_right₀ one_le_two (by decide)
  calc |r - x| ≤ |x| * 2 ^ (-52 : ℤ) + 2 ^ (-1074 : ℤ) := h
    _ ≤ B * 2 ^ (-52 : ℤ) + B * 2 ^ (-52 : ℤ) := by
        gcongr
        exact hleast.trans (le_mul_of_one_le_left (by positivity) hB)
    _ = B / 2 ^ 51 := by
        norm_num
        ring

/-- Sums of numbers that are close one by one. -/
theorem abs_sum_sub_sum_le {α : Type} {xs : List α} {f g : α → ℚ} {δ : ℚ}
    (h : ∀ x ∈ xs, |f x - g x| ≤ δ) : |(xs.map f).sum - (xs.map g).sum| ≤ xs.length * δ := by
  induction xs with
  | nil => simp
  | cons x xs ih =>
    have hhead := h x List.mem_cons_self
    have htail := ih fun y hy ↦ h y (List.mem_cons_of_mem _ hy)
    rw [List.map_cons, List.map_cons, List.sum_cons, List.sum_cons, List.length_cons,
      Nat.cast_succ, add_one_mul, add_sub_add_comm]
    linarith [abs_add_le (f x - g x) ((xs.map f).sum - (xs.map g).sum)]

/-- The exact sum of bounded values. -/
theorem abs_sum_le {xs : List Float} {B : ℚ} (h : ∀ x ∈ xs, |value x| ≤ B) :
    |(xs.map value).sum| ≤ xs.length * B := by
  have hzero : (xs.map fun _ ↦ (0 : ℚ)).sum = 0 := by simp
  have hsum := abs_sum_sub_sum_le (g := fun _ ↦ 0) (by simpa using h)
  rwa [hzero, sub_zero] at hsum

/-! ### Sums -/

theorem sum_concat (xs : List Float) (x : Float) :
    Quantity.sum (xs ++ [x]) = Quantity.sum xs + x := by
  rw [Quantity.sum, List.foldl_append]
  rfl

/-- A finite sum has finite parts. -/
theorem isFinite_of_sum {xs : List Float} (h : (Quantity.sum xs).isFinite) :
    ∀ x ∈ xs, x.isFinite := by
  induction xs using List.reverseRecOn with
  | nil => nofun
  | append_singleton xs x ih =>
    rw [sum_concat] at h
    obtain ⟨hxs, hx, -⟩ := near_add h
    exact List.forall_mem_append.2 ⟨ih hxs, by simpa using hx⟩

section Bounded

variable {xs : List Float} {B : ℚ} (hcount : xs.length ≤ 2 ^ 40) (hB : 1 ≤ B)
  (hx : ∀ x ∈ xs, |value x| ≤ B)
include hcount hB hx

/-- Each addition is off by a `2 ^ 9`th part of the bound at most. -/
theorem near_sum (hfin : (Quantity.sum xs).isFinite) :
    |value (Quantity.sum xs) - (xs.map value).sum| ≤ xs.length * (B / 2 ^ 9) := by
  induction xs using List.reverseRecOn with
  | nil =>
    have hempty : value (Quantity.sum []) = 0 := rfl
    simp [hempty]
  | append_singleton xs x ih =>
    rw [sum_concat] at hfin ⊢
    rw [List.length_append, List.length_singleton] at hcount
    obtain ⟨hfins, -, hnear⟩ := near_add hfin
    have hxs : ∀ y ∈ xs, |value y| ≤ B := fun y hy ↦ hx y (List.mem_append_left _ hy)
    have hxB : |value x| ≤ B := hx x (List.mem_append_right _ (List.mem_singleton_self x))
    have hclose := ih (by omega) hxs hfins
    have hlength : (xs.length : ℚ) ≤ 2 ^ 40 := by exact_mod_cast (by omega : xs.length ≤ 2 ^ 40)
    have hlengthB : xs.length * B ≤ 2 ^ 40 * B := by gcongr
    have hexact : |value (Quantity.sum xs) + value x| ≤ 2 ^ 42 * B := by
      linarith [abs_add_le (value (Quantity.sum xs)) (value x), abs_sum_le hxs,
        abs_sub_abs_le_abs_sub (value (Quantity.sum xs)) (xs.map value).sum]
    have hstep := hnear.abs_sub_le hexact (by linarith)
    rw [List.map_append, List.sum_append, List.map_singleton, List.sum_singleton,
      List.length_append, List.length_singleton, Nat.cast_succ]
    calc |value (Quantity.sum xs + x) - ((xs.map value).sum + value x)|
        ≤ |value (Quantity.sum xs + x) - (value (Quantity.sum xs) + value x)| +
          |value (Quantity.sum xs) + value x - ((xs.map value).sum + value x)| :=
          abs_sub_le ..
      _ ≤ 2 ^ 42 * B / 2 ^ 51 + xs.length * (B / 2 ^ 9) := by
          rw [add_sub_add_right_eq_sub]
          exact add_le_add hstep hclose
      _ = (xs.length + 1) * (B / 2 ^ 9) := by ring

end Bounded

/-! ### Means -/

section Mean

variable {xs : List Float} (hne : xs ≠ [])
include hne

theorem cast_length_values_pos : (0 : ℚ) < xs.length :=
  Nat.cast_pos.2 (List.length_pos_iff.2 hne)

theorem abs_mean_le {B : ℚ} (hx : ∀ x ∈ xs, |value x| ≤ B) : |mean (xs.map value)| ≤ B := by
  have hn := cast_length_values_pos hne
  rw [mean_exact, List.length_map, abs_div, abs_of_pos hn, div_le_iff₀ hn, mul_comm]
  exact abs_sum_le hx

variable (hcount : xs.length ≤ 2 ^ 40)
include hcount

/-- The mean is taken by a division by the count. -/
theorem near_quotient (hfin : (mean xs).isFinite) :
    (Quantity.sum xs).isFinite ∧
      Near (value (mean xs)) (value (Quantity.sum xs) / xs.length) := by
  have hlength : value (Quantity.ofNat xs.length) = xs.length := (value_ofNat (by omega)).2
  rw [← hlength]
  exact near_div (hlength ▸ (cast_length_values_pos hne).ne') hfin

variable {B : ℚ} (hB : 1 ≤ B) (hx : ∀ x ∈ xs, |value x| ≤ B)
include hB hx

/-- **The computed mean is close to the exact one.** -/
theorem near_mean (hfin : (mean xs).isFinite) :
    |value (mean xs) - mean (xs.map value)| ≤ B / 2 ^ 8 := by
  have hn := cast_length_values_pos hne
  obtain ⟨hfins, hnear⟩ := near_quotient hne hcount hfin
  have hquotient : |value (Quantity.sum xs) / xs.length - mean (xs.map value)| ≤ B / 2 ^ 9 := by
    rw [mean_exact, List.length_map, ← sub_div, abs_div, abs_of_pos hn, div_le_iff₀ hn, mul_comm]
    exact near_sum hcount hB hx hfins
  have hmean : |mean (xs.map value)| ≤ B := abs_mean_le hne hx
  have hexact : |value (Quantity.sum xs) / xs.length| ≤ 2 * B := by
    linarith [abs_sub_abs_le_abs_sub (value (Quantity.sum xs) / xs.length) (mean (xs.map value))]
  have hstep := hnear.abs_sub_le hexact (by linarith)
  linarith [abs_sub_le (value (mean xs)) (value (Quantity.sum xs) / xs.length)
    (mean (xs.map value))]

theorem abs_value_mean_le : |value (mean xs)| ≤ 2 * B := by
  by_cases hfin : (mean xs).isFinite
  · have hclose := near_mean hne hcount hB hx hfin
    have hmean : |mean (xs.map value)| ≤ B := abs_mean_le hne hx
    linarith [abs_sub_abs_le_abs_sub (value (mean xs)) (mean (xs.map value))]
  · rw [value_of_not_isFinite hfin, abs_zero]
    linarith

end Mean

/-! ### Variances -/

/-- What is added up for a variance. -/
def squaredDistance (c x : Float) : Float :=
  (x - c) * (x - c)

/-- A variance is the mean of the squared distances from the mean. -/
theorem variance_eq_mean (xs : List Float) :
    variance xs = mean (xs.map (squaredDistance (mean xs))) := by
  rw [mean, List.length_map]
  rfl

theorem isFinite_of_squaredDistance {c x : Float} (h : (squaredDistance c x).isFinite) :
    x.isFinite ∧ c.isFinite := by
  obtain ⟨hdistance, -, -⟩ := near_mul h
  obtain ⟨hx, hc, -⟩ := near_sub hdistance
  exact ⟨hx, hc⟩

/-- A finite variance is one of finite values, and their mean is finite. -/
theorem isFinite_of_variance {xs : List Float} (hne : xs ≠ []) (hcount : xs.length ≤ 2 ^ 40)
    (h : (variance xs).isFinite) : (∀ x ∈ xs, x.isFinite) ∧ (mean xs).isFinite := by
  rw [variance_eq_mean] at h
  have hsum := (near_quotient (by simpa using hne) (by simpa using hcount) h).1
  have hall (x : Float) (hx : x ∈ xs) : x.isFinite ∧ (mean xs).isFinite :=
    isFinite_of_squaredDistance (isFinite_of_sum hsum _ (List.mem_map_of_mem hx))
  obtain ⟨x, hx⟩ := List.exists_mem_of_ne_nil xs hne
  exact ⟨fun x hx ↦ (hall x hx).1, (hall x hx).2⟩

/-- The square of a computed distance is close to that of the exact one. -/
theorem near_squaredDistance {x c : Float} {B : ℚ} (hB : 1 ≤ B) (hx : |value x| ≤ B)
    (hc : |value c| ≤ 2 * B) (hfin : (squaredDistance c x).isFinite) :
    |value (squaredDistance c x) - (value x - value c) ^ 2| ≤ B ^ 2 / 2 ^ 8 ∧
      |value (squaredDistance c x)| ≤ 10 * B ^ 2 := by
  obtain ⟨hfind, -, hsquare⟩ := near_mul hfin
  obtain ⟨-, -, hdistance⟩ := near_sub hfind
  have hB2 : 1 ≤ B ^ 2 := one_le_pow₀ hB
  set D := value x - value c
  set d := value (x - c)
  have hD : |D| ≤ 3 * B := by linarith [abs_sub (value x) (value c)]
  have hdD : |d - D| ≤ 3 * B / 2 ^ 51 := hdistance.abs_sub_le hD (by linarith)
  have hd : |d| ≤ 4 * B := by linarith [abs_sub_abs_le_abs_sub d D]
  have hdd : |d * d| ≤ 16 * B ^ 2 := by
    rw [abs_mul]
    calc |d| * |d| ≤ 4 * B * (4 * B) := by gcongr
      _ = 16 * B ^ 2 := by ring
  have hsquares : |d * d - D ^ 2| ≤ 3 * B / 2 ^ 51 * (7 * B) := by
    have hsum : |d + D| ≤ 7 * B := by linarith [abs_add_le d D]
    calc |d * d - D ^ 2| = |d - D| * |d + D| := by
          rw [← abs_mul]
          congr 1
          ring
      _ ≤ 3 * B / 2 ^ 51 * (7 * B) := by gcongr
  have hDD : |D ^ 2| ≤ 9 * B ^ 2 := by
    rw [abs_pow]
    calc |D| ^ 2 ≤ (3 * B) ^ 2 := by gcongr
      _ = 9 * B ^ 2 := by ring
  have hstep : |value (squaredDistance c x) - d * d| ≤ 16 * B ^ 2 / 2 ^ 51 :=
    hsquare.abs_sub_le hdd (by linarith)
  have hclose : |value (squaredDistance c x) - D ^ 2| ≤ B ^ 2 / 2 ^ 8 := by
    linarith [abs_sub_le (value (squaredDistance c x)) (d * d) (D ^ 2)]
  refine ⟨hclose, ?_⟩
  linarith [abs_sub_abs_le_abs_sub (value (squaredDistance c x)) (D ^ 2)]

section Bounded

variable {xs : List Float} (hne : xs ≠ []) (hcount : xs.length ≤ 2 ^ 40) {B : ℚ} (hB : 1 ≤ B)
include hne hcount hB

/-- **The computed variance is close to the exact one.** -/
theorem near_variance (hx : ∀ x ∈ xs, |value x| ≤ B) (hfin : (variance xs).isFinite) :
    |value (variance xs) - variance (xs.map value)| ≤ B ^ 2 / 2 ^ 4 := by
  let c := mean xs
  let squared := xs.map (squaredDistance c)
  have hn := cast_length_values_pos hne
  have hB2 : 1 ≤ B ^ 2 := one_le_pow₀ hB
  have hfinc : c.isFinite := (isFinite_of_variance hne hcount hfin).2
  have hc : |value c| ≤ 2 * B := abs_value_mean_le hne hcount hB hx
  rw [variance_eq_mean] at hfin ⊢
  have hne' : squared ≠ [] := by simpa [squared] using hne
  have hcount' : squared.length ≤ 2 ^ 40 := by simpa [squared] using hcount
  have hfins := isFinite_of_sum (near_quotient hne' hcount' hfin).1
  have hsquared (x : Float) (hmem : x ∈ xs) :=
    near_squaredDistance hB (hx x hmem) hc (hfins _ (List.mem_map_of_mem hmem))
  have hbound : ∀ q ∈ squared, |value q| ≤ 10 * B ^ 2 :=
    List.forall_mem_map.2 fun x hmem ↦ (hsquared x hmem).2
  have hclose : |value (mean squared) - mean (squared.map value)| ≤ 10 * B ^ 2 / 2 ^ 8 :=
    near_mean hne' hcount' (by linarith) hbound hfin
  -- These are close to the squared distances from the computed mean, which is close to the mean.
  have hsum : |mean (squared.map value) - squares (xs.map value) (value c) / xs.length| ≤
      B ^ 2 / 2 ^ 8 := by
    rw [mean_exact, squares, List.map_map, List.map_map, List.length_map, ← sub_div, abs_div,
      abs_of_pos hn, div_le_iff₀ hn, mul_comm]
    exact abs_sum_sub_sum_le fun x hmem ↦ (hsquared x hmem).1
  have hcentre : |squares (xs.map value) (value c) / xs.length - variance (xs.map value)| ≤
      B ^ 2 / 2 ^ 16 := by
    have hne'' : xs.map value ≠ [] := by simpa using hne
    have hgap := squares_sub_squares_mean hne'' (value c)
    rw [List.length_map] at hgap
    rw [variance_exact, List.length_map, ← sub_div, hgap, mul_div_cancel_left₀ _ hn.ne', abs_pow]
    calc |value c - mean (xs.map value)| ^ 2 ≤ (B / 2 ^ 8) ^ 2 := by
          gcongr
          exact near_mean hne hcount hB hx hfinc
      _ = B ^ 2 / 2 ^ 16 := by ring
  linarith [abs_sub_le (value (mean squared)) (mean (squared.map value)) (variance (xs.map value)),
    abs_sub_le (mean (squared.map value)) (squares (xs.map value) (value c) / xs.length)
      (variance (xs.map value))]

/-- **The computed standard deviation of values from zero to a bound** is below three quarters of
it. -/
theorem value_sqrt_variance_le (hx : ∀ x ∈ xs, 0 ≤ value x ∧ value x ≤ B)
    (hfin : (variance xs).sqrt.isFinite) :
    0 ≤ value (variance xs).sqrt ∧ value (variance xs).sqrt ≤ 3 / 4 * B := by
  have habs : ∀ x ∈ xs, |value x| ≤ B := fun x hmem ↦
    abs_le.2 ⟨by linarith [(hx x hmem).1], (hx x hmem).2⟩
  obtain ⟨hfinv, hnonneg, a, ha, hsq, hnear⟩ := near_sqrt hfin
  have hclose := near_variance hne hcount hB habs hfinv
  have hexact : variance (xs.map value) ≤ (B - 0) ^ 2 / 4 :=
    variance_le (by simpa using hne) (List.forall_mem_map.2 fun x hmem ↦ (hx x hmem).1)
      (List.forall_mem_map.2 fun x hmem ↦ (hx x hmem).2)
  have hroot : a ≤ 9 / 16 * B := by
    refine le_of_sq_le_sq ?_ (by linarith)
    have := (abs_le.1 hclose).2
    have := sq_nonneg B
    linarith
  have hstep := hnear.abs_sub_le (abs_le.2 ⟨by linarith, by linarith⟩) hB
  refine ⟨hnonneg, ?_⟩
  have := (abs_le.1 hstep).2
  linarith

end Bounded

end Binary64

end LatencyCurve
