import LatencyCurve.Stats.Curve
import LatencyCurve.Stats.Summary

/-!
# Series and their sorted values

What the statistics of a series rest on. The sorted values are characterized by two facts, that they
are the values of the series and that they ascend (`Series.eq_sorted_iff`): because quantities that
are at most each other are the same, no list but one has both. So whatever is computed from the
sorted values is a function of which values there are.

A series that is not empty has a curve and a summary; nothing else decides whether there are any.
-/

namespace LatencyCurve

variable {α : Type}

namespace Series

/-! ### Counting -/

/-- Every measurement is counted under one of the two forms. -/
theorem countFor_add_countFor (s : Series α) :
    s.countFor .took + s.countFor .semicolonSuffix = s.length := by
  rw [length, List.length_eq_countP_add_countP (fun m ↦ m.pattern = .took)]
  refine congrArg _ (List.countP_congr fun m _ ↦ ?_)
  cases m.pattern <;> simp

/-! ### Sorting -/

section Sorted

variable [Quantity α]

/-- Sorting loses nothing and adds nothing. -/
theorem sorted_perm (s : Series α) : s.sorted.Perm s.values :=
  List.mergeSort_perm s.values Quantity.atMost

/-- Sorted values ascend. -/
theorem pairwise_sorted (s : Series α) :
    s.sorted.Pairwise fun x y ↦ Quantity.atMost x y = true :=
  List.pairwise_mergeSort Quantity.atMost_trans Quantity.atMost_total s.values

/-- **The sorted values are the only ascending arrangement** of the values of a series. -/
theorem eq_sorted_iff {s : Series α} {l : List α} :
    l = s.sorted ↔ l.Perm s.values ∧ l.Pairwise fun x y ↦ Quantity.atMost x y = true := by
  constructor
  · rintro rfl
    exact ⟨s.sorted_perm, s.pairwise_sorted⟩
  · rintro ⟨hperm, hasc⟩
    exact List.Perm.eq_of_pairwise (fun x y _ _ ↦ Quantity.atMost_antisymm x y) hasc
      s.pairwise_sorted (hperm.trans s.sorted_perm.symm)

/-- So they are a function of which values there are. -/
theorem sorted_congr {s t : Series α} (h : s.values.Perm t.values) : s.sorted = t.sorted :=
  eq_sorted_iff.2 ⟨s.sorted_perm.trans h, s.pairwise_sorted⟩

@[simp] theorem sorted_eq_nil_iff {s : Series α} : s.sorted = [] ↔ s.measurements = [] := by
  rw [← List.length_eq_zero_iff, length_sorted, length, List.length_eq_zero_iff]

end Sorted

end Series

/-! ### What there is of a series that is not empty -/

namespace Summary

/-- The figures of the summary of values that are there. -/
theorem ofSortedWith_eq [Quantity α] {root : α → α} {sorted : List α} (h : sorted ≠ []) :
    ofSortedWith root sorted = .ok
      { count := sorted.length
        min := sorted.head h
        max := sorted.getLast h
        mean := LatencyCurve.mean sorted
        deviation := root (variance sorted)
        percentiles :=
          summaryPercents.filterMap fun p ↦
            (percentile? sorted (Quantity.ofNat p)).map fun v ↦ ⟨Quantity.ofNat p, v⟩ } := by
  rw [ofSortedWith, List.head?_eq_some_head h, List.getLast?_eq_some_getLast h]

/-- Values that are there have a summary, and it counts them. -/
theorem exists_ofSortedWith [Quantity α] {root : α → α} {sorted : List α} (h : sorted ≠ []) :
    ∃ s, ofSortedWith root sorted = .ok s ∧ s.count = sorted.length :=
  ⟨_, ofSortedWith_eq h, rfl⟩

/-- A series that is not empty has a summary, and it counts the measurements. -/
theorem exists_ofSeries {s : Series Float} (h : s.measurements ≠ []) :
    ∃ summary, ofSeries s = .ok summary ∧ summary.count = s.length := by
  have hsorted : s.sorted ≠ [] := mt Series.sorted_eq_nil_iff.1 h
  obtain ⟨summary, hsummary, hcount⟩ : ∃ summary, ofSortedWith Float.sqrt s.sorted = .ok summary ∧
      summary.count = s.sorted.length := exists_ofSortedWith hsorted
  exact ⟨summary, hsummary, hcount.trans s.length_sorted⟩

/-- The extremes of a summary are the first and the last of the sorted values. -/
theorem extremes_of_ofSeries {s : Series Float} {summary : Summary Float}
    (h : ofSeries s = .ok summary) :
    s.sorted.head? = some summary.min ∧ s.sorted.getLast? = some summary.max := by
  rw [ofSeries, ofSeriesWith, ofSortedWith] at h
  split at h
  next least greatest hleast hgreatest =>
    cases h
    exact ⟨hleast, hgreatest⟩
  next => cases h

end Summary

end LatencyCurve
