import LatencyCurve.Proofs.Series
import Mathlib.Data.Rat.Floor
import Mathlib.Algebra.BigOperators.Group.List.Basic

/-!
# Exact quantities

The operations of a quantity, read at exact numbers, are those of arithmetic: the two orders are
one, sums start from zero, and the ranks that a percentile is interpolated between are the floor and
the ceiling of a number (`floor_exact`, `ceil_exact`). What is proved of exact statistics starts from
these equations and says nothing about rounding.
-/

namespace LatencyCurve

/-! ### Operations -/

theorem ofNat_exact (n : ℕ) : (Quantity.ofNat n : ℚ) = n :=
  rfl

theorem floor_exact (x : ℚ) : Quantity.floor x = ⌊x⌋₊ :=
  rfl

theorem ceil_exact (x : ℚ) : Quantity.ceil x = ⌈x⌉₊ := by
  have hceil : x.ceil = ⌈x⌉ :=
    eq_of_forall_ge_iff fun z ↦ Rat.ceil_le_iff.trans Int.ceil_le.symm
  rw [← Int.ceil_toNat, ← hceil]
  rfl

theorem sum_exact (xs : List ℚ) : Quantity.sum xs = xs.sum :=
  List.sum_eq_foldl.symm

/-! ### Ascending values -/

theorem pairwise_atMost_iff {xs : List ℚ} :
    xs.Pairwise (fun x y ↦ Quantity.atMost x y = true) ↔ xs.Pairwise (· ≤ ·) := by
  simp [Quantity.atMost]

/-- The sorted values of a series ascend. -/
theorem Series.pairwise_le_sorted (s : Series ℚ) : s.sorted.Pairwise (· ≤ ·) :=
  pairwise_atMost_iff.1 s.pairwise_sorted

/-- Among ascending values the one at a later place is no smaller. -/
theorem le_of_places {xs : List ℚ} (hasc : xs.Pairwise (· ≤ ·)) {i j : ℕ} {a b : ℚ} (hij : i ≤ j)
    (hi : xs[i]? = some a) (hj : xs[j]? = some b) : a ≤ b := by
  obtain rfl | hlt := hij.eq_or_lt
  · exact (Option.some.inj (hi.symm.trans hj)).le
  · obtain ⟨hi', rfl⟩ := List.getElem?_eq_some_iff.1 hi
    obtain ⟨hj', rfl⟩ := List.getElem?_eq_some_iff.1 hj
    exact List.pairwise_iff_getElem.1 hasc i j hi' hj' hlt

end LatencyCurve
