import LatencyCurve.Number.Extended
import LatencyCurve.Proofs.Interpolation
import Mathlib.Tactic.SplitIfs

/-!
# Percentiles are ordered and bounded

Over exact values, every request has a percentile that lies between two values of the list, and a
larger request never has a smaller one. Requests are `Extended`: beside the exact numbers, below zero
and above one hundred as well, they include the infinities and what is not a number, which stands at
rank zero. `Extended.percentile?_eq` brings each of them back to a percentile between zero and one
hundred (`Extended.percent`), where the theory of `LatencyCurve.Proofs.Interpolation` applies.

`percentiles_are_ordered` states all of it, and with it that the figures of every summary come in
ascending order from the smallest value over the percentiles to the largest.
-/

namespace LatencyCurve

/-! ### What is asked for -/

namespace Extended

/-- The percentile between zero and one hundred that a request stands for. -/
def percent : Extended → ℚ
  | finite x => clampPercent x
  | infinite negative => if negative then 0 else 100
  | nan => 0

theorem percent_nonneg (p : Extended) : 0 ≤ p.percent := by
  match p with
  | finite x => exact clampPercent_nonneg x
  | infinite true | infinite false | nan => simp [percent]

theorem percent_le (p : Extended) : p.percent ≤ 100 := by
  match p with
  | finite x => exact clampPercent_le x
  | infinite true | infinite false | nan => simp [percent]

theorem percent_mono {p q : Extended} (hq : q ≠ nan) (hpq : Quantity.atMost p q) :
    p.percent ≤ q.percent := by
  match p, q with
  | finite x, finite y => exact clampPercent_mono (of_decide_eq_true hpq)
  | infinite true, q => exact percent_nonneg q
  | p, infinite false => exact percent_le p
  | finite x, infinite true | infinite false, finite x | infinite false, infinite true => cases hpq
  | nan, finite x | nan, infinite true => cases hpq
  | p, nan => exact absurd rfl hq

theorem percent_eq_zero {p : Extended} (h : Quantity.atMost p (finite 0) ∨ p = nan) :
    p.percent = 0 := by
  obtain h | rfl := h
  · have hle : p.percent ≤ (finite 0).percent := percent_mono Extended.noConfusion h
    exact le_antisymm (hle.trans_eq (clampPercent_of_nonpos le_rfl)) p.percent_nonneg
  · rfl

theorem percent_eq_hundred {p : Extended} (h : Quantity.atMost (finite 100) p) (hp : p ≠ nan) :
    p.percent = 100 := by
  have hle : (finite 100).percent ≤ p.percent := percent_mono hp h
  exact le_antisymm p.percent_le ((clampPercent_of_hundred_le le_rfl).symm.trans_le hle)

/-! ### Back to exact percentiles -/

@[simp] theorem ofNat_eq (n : ℕ) : (Quantity.ofNat n : Extended) = finite n :=
  rfl

theorem lt_finite (x y : ℚ) : Quantity.lt (finite x) (finite y) = Quantity.lt x y := by
  simp [Quantity.lt, atMost, ← decide_not]

theorem clampPercent_eq (p : Extended) : clampPercent p = finite p.percent := by
  match p with
  | finite x =>
    simp only [percent, clampPercent, ofNat_eq, ← ofNat_exact, lt_finite]
    split_ifs <;> rfl
  | infinite true | infinite false | nan => rfl

theorem percentileRank_eq (count : ℕ) (p : Extended) :
    percentileRank count p = finite (percentileRank count p.percent) := by
  have hhundred : (100 : ℚ) ≠ 0 := by norm_num
  rw [percentileRank_exact, clampPercent_of_mem p.percent_nonneg p.percent_le]
  simp only [percentileRank, clampPercent_eq, ofNat_eq, Nat.cast_ofNat, Nat.cast_one,
    finite_div _ hhundred, finite_sub, finite_mul]

/-- **A percentile is the exact one that its request stands for.** -/
theorem percentile?_eq (sorted : List ℚ) (p : Extended) :
    percentile? (sorted.map finite) p = (percentile? sorted p.percent).map finite := by
  simp only [percentile?, percentileRank_eq, List.length_map, List.getElem?_map]
  generalize percentileRank sorted.length p.percent = rank
  -- The ranks are natural numbers, the same whichever quantity they are read from.
  have hfloor : Quantity.floor (finite rank) = Quantity.floor rank := rfl
  have hceil : Quantity.ceil (finite rank) = Quantity.ceil rank := rfl
  rw [hfloor, hceil]
  cases hlow : sorted[Quantity.floor rank]? with
  | none => rfl
  | some low =>
    cases hhigh : sorted[Quantity.ceil rank]? with
    | none => rfl
    | some high =>
      by_cases hwhole : Quantity.floor rank = Quantity.ceil rank <;> simp [hwhole, ofNat_exact]

theorem percentile?_eq_finite_iff {sorted : List ℚ} {p : Extended} {v : ℚ} :
    percentile? (sorted.map finite) p = some (finite v) ↔
      percentile? sorted p.percent = some v := by
  rw [percentile?_eq]
  constructor
  · intro h
    obtain ⟨w, hw, hwv⟩ := Option.map_eq_some_iff.1 h
    cases hwv
    exact hw
  · intro h
    rw [h]
    rfl

end Extended

/-! ### Ranks -/

section Ranks

variable {α : Type} [Quantity α]

/-- The rank from which a percentile is interpolated. -/
def lowerRank (count : ℕ) (p : α) : ℕ :=
  Quantity.floor (percentileRank count p)

/-- The rank up to which it is interpolated. -/
def upperRank (count : ℕ) (p : α) : ℕ :=
  Quantity.ceil (percentileRank count p)

end Ranks

theorem lowerRank_eq (count : ℕ) (p : Extended) :
    lowerRank count p = ⌊percentileRank count p.percent⌋₊ := by
  rw [lowerRank, Extended.percentileRank_eq]
  rfl

theorem upperRank_eq (count : ℕ) (p : Extended) :
    upperRank count p = ⌈percentileRank count p.percent⌉₊ := by
  rw [upperRank, Extended.percentileRank_eq]
  exact ceil_exact _

/-! ### Order and bounds -/

/-- The percentiles of some exact values are in range and in order, whatever is asked for. -/
structure OrderedPercentiles (sorted : List ℚ) : Prop where
  /-- Every request has a percentile. Both its ranks are those of values, and it lies between
  these. -/
  exists_between : ∀ p : Extended, ∃ (hlower : lowerRank sorted.length p < sorted.length)
    (hupper : upperRank sorted.length p < sorted.length) (v : ℚ),
    percentile? (sorted.map Extended.finite) p = some (.finite v) ∧
      sorted[lowerRank sorted.length p] ≤ v ∧ v ≤ sorted[upperRank sorted.length p]
  /-- What is not a number has rank zero. -/
  rank_nan : lowerRank sorted.length Extended.nan = 0 ∧ upperRank sorted.length Extended.nan = 0
  /-- Up to zero, and where no number is asked for, the percentile is the first value. -/
  eq_first : ∀ p : Extended, Quantity.atMost p (.finite 0) ∨ p = .nan →
    percentile? (sorted.map Extended.finite) p = sorted.head?.map Extended.finite
  /-- From one hundred on it is the last value. -/
  eq_last : ∀ p : Extended, Quantity.atMost (.finite 100) p → p ≠ .nan →
    percentile? (sorted.map Extended.finite) p = sorted.getLast?.map Extended.finite
  /-- Where one hundred is divided by the steps from value to value, it is the value. -/
  eq_value : ∀ i (hi : i < sorted.length), 2 ≤ sorted.length →
    percentile? (sorted.map Extended.finite) (.finite (100 * i / (sorted.length - 1))) =
      some (.finite sorted[i])
  /-- A larger request has no smaller percentile. -/
  mono : ∀ (p q : Extended) (v w : ℚ), Quantity.atMost p q → q ≠ .nan →
    percentile? (sorted.map Extended.finite) p = some (.finite v) →
    percentile? (sorted.map Extended.finite) q = some (.finite w) → v ≤ w

theorem orderedPercentiles {sorted : List ℚ} (hne : sorted ≠ []) (hasc : sorted.Pairwise (· ≤ ·)) :
    OrderedPercentiles sorted where
  exists_between p := by
    have hcount : sorted.length ≠ 0 := mt List.length_eq_zero_iff.1 hne
    have hupper : ⌈percentileRank sorted.length p.percent⌉₊ < sorted.length :=
      ceil_percentileRank_lt hcount p.percent
    obtain ⟨v, hv⟩ := exists_percentile? hne p.percent
    simp only [lowerRank_eq, upperRank_eq]
    refine ⟨(Nat.floor_le_ceil _).trans_lt hupper, hupper, v,
      Extended.percentile?_eq_finite_iff.2 hv, ?_⟩
    rw [percentile?_exact] at hv
    exact valueAt?_mem hasc (percentileRank_nonneg hcount _) hv (List.getElem?_eq_getElem _)
      (List.getElem?_eq_getElem _)
  rank_nan := by
    rw [lowerRank_eq, upperRank_eq, Extended.percent_eq_zero (.inr rfl),
      percentileRank_of_nonpos _ le_rfl]
    simp
  eq_first p hp := by
    rw [Extended.percentile?_eq, Extended.percent_eq_zero hp, percentile?_of_nonpos le_rfl]
  eq_last p hp hnan := by
    rw [Extended.percentile?_eq, Extended.percent_eq_hundred hp hnan,
      percentile?_of_hundred_le hne le_rfl]
  eq_value i hi hcount := by
    rw [Extended.percentile?_eq_finite_iff, Extended.percent, percentile?_clampPercent,
      percentile?_of_part hi hcount]
  mono p q v w hpq hq hv hw :=
    percentile?_mono hne hasc (Extended.percent_mono hq hpq) (Extended.percentile?_eq_finite_iff.1 hv)
      (Extended.percentile?_eq_finite_iff.1 hw)

/-! ### The figures of a summary -/

namespace Summary

/-- The smallest value, the four percentiles and the largest value come in this order. -/
def InOrder (s : Summary ℚ) : Prop :=
  ∃ p50 p90 p95 p99, s.percentiles = [⟨50, p50⟩, ⟨90, p90⟩, ⟨95, p95⟩, ⟨99, p99⟩] ∧
    s.min ≤ p50 ∧ p50 ≤ p90 ∧ p90 ≤ p95 ∧ p95 ≤ p99 ∧ p99 ≤ s.max

theorem exists_inOrder {sorted : List ℚ} (hne : sorted ≠ []) (hasc : sorted.Pairwise (· ≤ ·))
    (root : ℚ → ℚ) : ∃ s, ofSortedWith root sorted = .ok s ∧ s.InOrder := by
  have hfirst : percentile? sorted 0 = some (sorted.head hne) :=
    (percentile?_of_nonpos le_rfl).trans (List.head?_eq_some_head hne)
  have hlast : percentile? sorted 100 = some (sorted.getLast hne) :=
    (percentile?_of_hundred_le hne le_rfl).trans (List.getLast?_eq_some_getLast hne)
  obtain ⟨p50, h50⟩ := exists_percentile? hne 50
  obtain ⟨p90, h90⟩ := exists_percentile? hne 90
  obtain ⟨p95, h95⟩ := exists_percentile? hne 95
  obtain ⟨p99, h99⟩ := exists_percentile? hne 99
  refine ⟨_, ofSortedWith_eq hne, p50, p90, p95, p99, ?_, ?_, ?_, ?_, ?_, ?_⟩
  · simp [summaryPercents, ofNat_exact, h50, h90, h95, h99]
  · exact percentile?_mono hne hasc (by norm_num) hfirst h50
  · exact percentile?_mono hne hasc (by norm_num) h50 h90
  · exact percentile?_mono hne hasc (by norm_num) h90 h95
  · exact percentile?_mono hne hasc (by norm_num) h95 h99
  · exact percentile?_mono hne hasc (by norm_num) h99 hlast

theorem inOrder_of_ofSeriesWith {series : Series ℚ} {root : ℚ → ℚ} {s : Summary ℚ}
    (h : ofSeriesWith root series = .ok s) : s.InOrder := by
  have hne : series.sorted ≠ [] := by
    intro hempty
    rw [ofSeriesWith, hempty] at h
    cases h
  obtain ⟨t, ht, hinOrder⟩ := exists_inOrder hne series.pairwise_le_sorted root
  obtain rfl : t = s := Except.ok.inj (ht.symm.trans h)
  exact hinOrder

end Summary

/-- **Percentiles are ordered and bounded, and never out of range.** Only of no values is there
none. Of ascending values every request, be it an infinity or no number at all, has a percentile
between the values at its two ranks; it is the first value up to zero, the last one from one hundred
on, each value where its rank is asked for, and it grows with the request. So the figures of every
summary, of ascending values or of a series, are in order. -/
theorem percentiles_are_ordered (sorted : List ℚ) :
    (∀ p : Extended, percentile? (sorted.map Extended.finite) p = none ↔ sorted = []) ∧
      (sorted ≠ [] → sorted.Pairwise (· ≤ ·) → OrderedPercentiles sorted ∧
        ∀ root, ∃ s, Summary.ofSortedWith root sorted = .ok s ∧ s.InOrder) ∧
      ∀ (series : Series ℚ) root s, Summary.ofSeriesWith root series = .ok s → s.InOrder := by
  refine ⟨fun p ↦ ?_, fun hne hasc ↦ ?_, fun _ _ _ ↦ Summary.inOrder_of_ofSeriesWith⟩
  · constructor
    · intro hnone
      by_contra hne
      obtain ⟨v, hv⟩ := exists_percentile? hne p.percent
      rw [Extended.percentile?_eq_finite_iff.2 hv] at hnone
      cases hnone
    · rintro rfl
      rfl
  · exact ⟨orderedPercentiles hne hasc, Summary.exists_inOrder hne hasc⟩

/-- Four values, two of them equal: what is not a number has the first one, an infinity the last
one, two thirds of one hundred the third one, and ninety lies between the third and the last. -/
theorem percentiles_of_tied_values :
    let sorted : List ℚ := [1, 2, 2, 4]
    sorted ≠ [] ∧ sorted.Pairwise (· ≤ ·) ∧
      percentile? (sorted.map Extended.finite) .nan = some (.finite 1) ∧
      percentile? (sorted.map Extended.finite) (.infinite false) = some (.finite 4) ∧
      percentile? (sorted.map Extended.finite) (.finite (100 * (2 : ℕ) / ((4 : ℕ) - 1))) =
        some (.finite 2) ∧
      ∃ v, percentile? (sorted.map Extended.finite) (.finite 90) = some (.finite v) ∧
        2 ≤ v ∧ v ≤ 4 := by
  intro sorted
  have hne : sorted ≠ [] := List.cons_ne_nil _ _
  have hasc : sorted.Pairwise (· ≤ ·) := by decide
  obtain ⟨hordered, -⟩ := (percentiles_are_ordered sorted).2.1 hne hasc
  refine ⟨hne, hasc, hordered.eq_first _ (.inr rfl), hordered.eq_last _ rfl Extended.noConfusion,
    hordered.eq_value 2 (by decide) (by decide), ?_⟩
  have hlower : lowerRank sorted.length (Extended.finite 90) = 2 := by decide +kernel
  have hupper : upperRank sorted.length (Extended.finite 90) = 3 := by decide +kernel
  obtain ⟨hrange, hrange', v, hv, hlow, hhigh⟩ := hordered.exists_between (.finite 90)
  simp only [hlower] at hlow
  simp only [hupper] at hhigh
  exact ⟨v, hv, hlow, hhigh⟩

end LatencyCurve
