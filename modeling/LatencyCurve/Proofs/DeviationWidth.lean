import LatencyCurve.Proofs.ComputedMoments
import LatencyCurve.Proofs.Extraction
import LatencyCurve.Proofs.FloatBits
import LatencyCurve.Proofs.SummaryLines

/-!
# How wide the standard deviation is

A summary shows the standard deviation with its details only, in the column that the largest
latency stands in anyway. Latencies are not negative, so their deviation is at most half the largest
of them, and what a program computes for it is still below three quarters, for up to `2 ^ 40`
latencies (`value_deviation_le`). A text that is shown of such a number is no longer than the one of
the largest latency (`length_millis_le`), and so the details leave the column as wide as it is
(`Report.deviationFits`).
-/

namespace LatencyCurve

open Binary64

/-! ### Text -/

/-- How many thousandths are shown of a finite number. -/
def thousandths (significand : ℕ) (exponent : ℤ) : ℕ :=
  let r := (Ratio.dyadic significand exponent).scale 3
  roundDiv .toEven r.num r.den

/-- Rounding a quotient goes to one of its neighbours. -/
theorem roundDiv_mem (tie : Tie) (num den : ℕ) :
    num / den ≤ roundDiv tie num den ∧ roundDiv tie num den ≤ num / den + 1 := by
  fun_cases roundDiv tie num den <;> omega

theorem abs_thousandths_sub_le (significand : ℕ) (exponent : ℤ) :
    |(thousandths significand exponent : ℚ) - 1000 * (significand * 2 ^ exponent)| ≤ 1 := by
  let r := (Ratio.dyadic significand exponent).scale 3
  have hden : 0 < r.den := by
    change 0 < (1 <<< (-exponent).toNat) * 10 ^ 0
    rw [Nat.one_shiftLeft, Nat.pow_zero, Nat.mul_one]
    exact Nat.two_pow_pos _
  have hvalue : (r.num : ℚ) / r.den = 1000 * (significand * 2 ^ exponent) := by
    have hnum : (r.num : ℚ) = significand * 2 ^ exponent.toNat * 1000 := by
      change (((significand <<< exponent.toNat) * 10 ^ 3 : ℕ) : ℚ) = _
      rw [Nat.shiftLeft_eq]
      push_cast
      norm_num
    have hden : (r.den : ℚ) = 2 ^ (-exponent).toNat := by
      change (((1 <<< (-exponent).toNat) * 10 ^ 0 : ℕ) : ℚ) = _
      rw [Nat.one_shiftLeft]
      push_cast
      norm_num
    have hpow : (2 : ℚ) ^ exponent = 2 ^ exponent.toNat / 2 ^ (-exponent).toNat := by
      rw [← zpow_natCast, ← zpow_natCast, ← zpow_sub₀ two_ne_zero]
      congr 1
      omega
    rw [hnum, hden, hpow]
    ring
  obtain ⟨hle, hge⟩ := roundDiv_mem .toEven r.num r.den
  have hlow : ((r.num / r.den : ℕ) : ℚ) ≤ r.num / r.den := Nat.cast_div_le
  have hhigh : (r.num : ℚ) / r.den < (r.num / r.den : ℕ) + 1 := by
    rw [div_lt_iff₀ (Nat.cast_pos.2 hden)]
    exact_mod_cast Nat.lt_mul_of_div_lt (Nat.lt_succ_self _) hden
  have hle' : ((r.num / r.den : ℕ) : ℚ) ≤ thousandths significand exponent := Nat.cast_le.2 hle
  have hge' : (thousandths significand exponent : ℚ) ≤ (r.num / r.den : ℕ) + 1 := by
    exact_mod_cast hge
  rw [← hvalue, abs_le]
  constructor <;> linarith

theorem length_millis {x : Float} {negative : Bool} {significand : ℕ} {exponent : ℤ}
    (h : Reading.ofFloat x = .finite negative significand exponent) :
    (Formatting.standard.millis x).length = (signText negative).length + 1 +
      max 4 (Nat.toDigits 10 (thousandths significand exponent)).length := by
  let units := Nat.toDigits 10 (thousandths significand exponent)
  let digits := List.replicate (4 - units.length) '0' ++ units
  have hdigits : digits.length = max 4 units.length := by
    rw [List.length_append, List.length_replicate]
    omega
  have htext : Formatting.standard.millis x = String.ofList (signText negative ++
      digits.take (digits.length - 3) ++ '.' :: digits.drop (digits.length - 3)) := by
    rw [Formatting.millis, fixedText, h]
    rfl
  rw [htext, String.length_ofList, List.length_append, List.length_append, List.length_cons,
    List.length_take, List.length_drop, ← hdigits]
  omega

/-- A larger number of thousandths takes at least as many digits. -/
theorem length_toDigits_mono {a b : ℕ} (h : a ≤ b) :
    (Nat.toDigits 10 a).length ≤ (Nat.toDigits 10 b).length := by
  have hb : b < 10 ^ (Nat.toDigits 10 b).length :=
    (Nat.length_toDigits_le_iff (by decide) Nat.length_toDigits_pos).1 le_rfl
  exact (Nat.length_toDigits_le_iff (by decide) Nat.length_toDigits_pos).2 (h.trans_lt hb)

/-- The thousandths of a number that is far from zero, beside those of a larger one. -/
theorem thousandths_le_of_value_le {x y : Float} {negative negative' : Bool}
    {significand significand' : ℕ} {exponent exponent' : ℤ}
    (hx : Reading.ofFloat x = .finite negative significand exponent)
    (hy : Reading.ofFloat y = .finite negative' significand' exponent')
    (hlarge : 10 ^ 4 ≤ thousandths significand exponent)
    (hnonneg : 0 ≤ value x) (hle : value x ≤ 3 / 4 * max 1 (value y)) :
    thousandths significand exponent ≤ thousandths significand' exponent' := by
  have hsize : value x = significand * 2 ^ exponent := by
    rw [← abs_value_of_ofFloat_eq hx, abs_of_nonneg hnonneg]
  have hsize' : value y ≤ significand' * 2 ^ exponent' := by
    rw [← abs_value_of_ofFloat_eq hy]
    exact le_abs_self _
  have hround := (abs_le.1 (abs_thousandths_sub_le significand exponent)).2
  have hround' := (abs_le.1 (abs_thousandths_sub_le significand' exponent')).1
  have hlarge' : (10 ^ 4 : ℚ) ≤ thousandths significand exponent := by exact_mod_cast hlarge
  have hone : 1 < value y := by
    by_contra hone
    rw [max_eq_left (not_lt.1 hone)] at hle
    linarith
  rw [max_eq_right hone.le] at hle
  have hcast : (thousandths significand exponent : ℚ) ≤ thousandths significand' exponent' := by
    linarith
  exact_mod_cast hcast

/-- **A number below three quarters of another** takes no more room than the other, or than the
heading of the column. -/
theorem length_millis_le {x y : Float}
    (h : x.isFinite → y.isFinite ∧ 0 ≤ value x ∧ value x ≤ 3 / 4 * max 1 (value y)) :
    (Formatting.standard.millis x).length ≤
      max latencyHeader.length (Formatting.standard.millis y).length := by
  have hheader : latencyHeader.length = 12 := by decide
  rw [hheader]
  cases hx : Reading.ofFloat x with
  | nan =>
    have : (Formatting.standard.millis x).length = 3 := by
      rw [Formatting.millis, fixedText, hx]
      rfl
    omega
  | infinite negative =>
    have : (Formatting.standard.millis x).length ≤ 4 := by
      rw [Formatting.millis, fixedText, hx]
      cases negative <;> decide
    omega
  | finite negative significand exponent =>
    rw [length_millis hx]
    by_cases hsmall : thousandths significand exponent < 10 ^ 4
    · have hsign : (signText negative).length ≤ 1 := by cases negative <;> decide
      have hdigits := (Nat.length_toDigits_le_iff (by decide) (by decide)).2 hsmall
      omega
    · obtain ⟨hfin, hvalue⟩ := value_of_ofFloat_eq hx
      obtain ⟨hy, hnonneg, hle⟩ := h hfin
      obtain ⟨negative', significand', exponent', hy'⟩ := exists_ofFloat_eq hy
      have hdigits := length_toDigits_mono
        (thousandths_le_of_value_le hx hy' (not_lt.1 hsmall) hnonneg hle)
      have hsign : signText negative = [] := by
        rw [signText, if_neg]
        rintro rfl
        have hround := (abs_le.1 (abs_thousandths_sub_le significand exponent)).2
        have hlarge : (10 ^ 4 : ℚ) ≤ thousandths significand exponent := by
          exact_mod_cast not_lt.1 hsmall
        rw [if_pos rfl] at hvalue
        linarith
      rw [length_millis hy', hsign, List.length_nil]
      omega

/-! ### The summary of a log -/

/-- No latency is negative. -/
theorem value_millisOf_nonneg (micros : ℕ) : 0 ≤ value (millisOf micros : Float) := by
  have hthousand : value (Quantity.ofNat microsPerMilli) = 1000 :=
    (value_ofNat (by decide)).2.trans (by norm_num [microsPerMilli])
  exact value_div_nonneg (value_ofNat_nonneg micros) (by rw [hthousand]; norm_num)

theorem Extraction.Exact.value_nonneg {ρ : Type} [LineRecognizer ρ] {recognizers : List ρ}
    {lines : List (List Char)} {e : Extraction Float} (h : e.Exact recognizers lines) {x : Float}
    (hx : x ∈ e.series.values) : 0 ≤ value x := by
  obtain ⟨m, hm, rfl⟩ := List.mem_map.1 hx
  obtain ⟨i, line, -, r, micros, -, rfl⟩ := (h.mem_iff m).1 hm
  exact value_millisOf_nonneg micros

/-- The standard deviation of sorted latencies, if it is finite, is below three quarters of the
largest of them, unless that is below one. -/
theorem value_deviation_le {xs : List Float} (hne : xs ≠ []) (hcount : xs.length ≤ 2 ^ 40)
    (hnonneg : ∀ x ∈ xs, 0 ≤ value x)
    (hasc : xs.Pairwise fun x y ↦ Quantity.atMost x y = true)
    (hfin : (variance xs).sqrt.isFinite) :
    (xs.getLast hne).isFinite ∧ 0 ≤ value (variance xs).sqrt ∧
      value (variance xs).sqrt ≤ 3 / 4 * max 1 (value (xs.getLast hne)) := by
  have hfins := (isFinite_of_variance hne hcount (near_sqrt hfin).1).1
  have hlast : xs.getLast hne ∈ xs := List.getLast_mem hne
  refine ⟨hfins _ hlast, value_sqrt_variance_le hne hcount (le_max_left _ _)
    (fun x hx ↦ ⟨hnonneg x hx, le_max_of_le_right ?_⟩) hfin⟩
  have hrefl : Quantity.atMost (xs.getLast hne) (xs.getLast hne) = true := by
    simpa using Quantity.atMost_total (xs.getLast hne) (xs.getLast hne)
  exact value_le_of_atMost (hfins x hx) (hfins _ hlast) (hnonneg _ hlast)
    (hasc.rel_getLast_of_rel_getLast_getLast hx hrefl)

/-- **The standard deviation has room** in the column of values, in the summary of a log of up to
`2 ^ 40` measurements. -/
theorem Report.deviationFits {ρ : Type} [LineRecognizer ρ] {recognizers : List ρ}
    {lines : List (List Char)} {e : Extraction Float} (he : e.Exact recognizers lines)
    {s : Summary Float} (hs : Summary.ofSeries e.series = .ok s) (hcount : s.count ≤ 2 ^ 40)
    (input output : String) : (Report.ofExtraction input output e s).DeviationFits := by
  let r := Report.ofExtraction input output e s
  have hne : e.series.sorted ≠ [] := by
    intro hnil
    rw [Summary.ofSeries, Summary.ofSeriesWith, hnil] at hs
    cases hs
  rw [Summary.ofSeries, Summary.ofSeriesWith, Summary.ofSortedWith_eq hne] at hs
  cases hs
  have hheader : latencyHeader.length ≤ Colored.valueWidth .standard (r.rows false) :=
    Table.length_le_widest List.mem_cons_self
  have hmax : (Formatting.standard.millis (e.series.sorted.getLast hne)).length ≤
      Colored.valueWidth .standard (r.rows false) := by
    refine Table.length_le_widest (List.mem_cons_of_mem _ (List.mem_map.2 ⟨("max", _), ?_, rfl⟩))
    simp [rows, r, ofExtraction]
  refine (length_millis_le fun hfin ↦ ?_).trans (max_le hheader hmax)
  exact value_deviation_le hne hcount
    (fun x hx ↦ he.value_nonneg (e.series.sorted_perm.mem_iff.1 hx)) e.series.pairwise_sorted hfin

end LatencyCurve
