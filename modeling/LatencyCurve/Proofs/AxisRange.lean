import LatencyCurve.Proofs.Distribution
import LatencyCurve.Proofs.Extraction
import LatencyCurve.Proofs.Moments
import LatencyCurve.Proofs.StepPath
import Mathlib.Analysis.Convex.Basic
import Mathlib.Tactic.NormNum

/-!
# The axis holds the curve

The latency axis ends a twentieth past the largest latency, and that is found by a fold of its own
over the points of the curve, not read off the last one. What the fold finds is the greatest of the
latencies and zero (`isGreatest_foldl_larger`); latencies are not negative, so it is the greatest
latency, and the axis ends behind it. Where all latencies are zero there is nothing to go past, and
the axis ends at one.

A vertex of the path has the latency of a point and the fraction of a point (`mem_stepPath`), not
always of the same one. So what holds of all latencies and of all fractions separately holds of the
vertices; and since the part of the plane that is shown is convex, of everything on the path.
-/

namespace LatencyCurve

/-! ### The largest latency -/

theorem larger_exact (x y : ℚ) : Quantity.larger x y = max x y := by
  simp [Quantity.larger, Quantity.lt, max_def_lt]

/-- The fold that looks for the largest of some values finds it, or where it started. -/
theorem isGreatest_foldl_larger (start : ℚ) (xs : List ℚ) :
    IsGreatest {x | x = start ∨ x ∈ xs} (xs.foldl Quantity.larger start) := by
  induction xs generalizing start with
  | nil => simp
  | cons y xs ih =>
    obtain ⟨hmem, hmax⟩ := ih (max start y)
    rw [List.foldl_cons, larger_exact]
    refine ⟨?_, fun x hx ↦ ?_⟩
    · rcases hmem with hstart | hxs
      · rcases max_choice start y with h | h
        · exact .inl (hstart.trans h)
        · exact .inr (by rw [hstart, h]; exact List.mem_cons_self)
      · exact .inr (List.mem_cons_of_mem _ hxs)
    · have hstart : max start y ≤ xs.foldl Quantity.larger (max start y) := hmax (.inl rfl)
      rcases hx with rfl | hx
      · exact (le_max_left _ _).trans hstart
      · rcases List.mem_cons.1 hx with rfl | hx
        · exact (le_max_right _ _).trans hstart
        · exact hmax (.inr hx)

theorem axisFactor_exact : (axisFactor : ℚ) = 21 / 20 := by
  rw [axisFactor, ofNat_exact, ofNat_exact]
  norm_num

/-- **The axis goes from zero to a little past the greatest latency.** -/
theorem exists_axisRange {curve : List (CurvePoint ℚ ℚ)} {greatest : ℚ}
    (h : IsGreatest {x | x ∈ curve.map (·.latency)} greatest) (hnonneg : 0 ≤ greatest) :
    ∃ hi, axisRange curve = (0, hi) ∧ greatest < hi := by
  have hfold : (curve.map (·.latency)).foldl Quantity.larger (Quantity.ofNat 0) = greatest := by
    refine (isGreatest_foldl_larger _ _).unique ⟨.inr h.1, ?_⟩
    rintro x (rfl | hx)
    · exact hnonneg
    · exact h.2 hx
  rw [axisRange, hfold, axisFactor_exact]
  by_cases hpos : 0 < greatest
  · have hlt : Quantity.lt (Quantity.ofNat 0) greatest = true := decide_eq_true hpos
    exact ⟨greatest * (21 / 20), if_pos hlt, by linarith⟩
  -- With all latencies zero the axis still has an extent.
  · have hlt : ¬ Quantity.lt (Quantity.ofNat 0) greatest = true := by
      simpa [Quantity.lt, Quantity.ofNat] using hpos
    exact ⟨1, if_neg hlt, by linarith⟩

/-! ### The vertices -/

section Vertices

variable {α β : Type}

/-- A vertex has the latency of a point and the fraction of a point. -/
theorem mem_stepPath {curve : List (CurvePoint α β)} {v : α × β} (hv : v ∈ stepPath curve) :
    v.1 ∈ curve.map (·.latency) ∧ v.2 ∈ curve.map (·.fraction) := by
  match curve with
  | [] => cases hv
  | [p] =>
    obtain rfl : v = p.vertex := by simpa using hv
    exact ⟨List.mem_cons_self, List.mem_cons_self⟩
  | p :: q :: rest =>
    rw [stepPath_cons_cons, List.mem_cons, List.mem_cons] at hv
    rcases hv with rfl | rfl | hv
    · exact ⟨List.mem_cons_self, List.mem_cons_self⟩
    · exact ⟨List.mem_cons_of_mem _ List.mem_cons_self, List.mem_cons_self⟩
    · obtain ⟨hlatency, hfraction⟩ := mem_stepPath hv
      exact ⟨List.mem_cons_of_mem _ hlatency, List.mem_cons_of_mem _ hfraction⟩

/-- The path ends at the last point. -/
theorem getLast?_stepPath (curve : List (CurvePoint α β)) :
    (stepPath curve).getLast? = curve.getLast?.map CurvePoint.vertex := by
  match curve with
  | [] => rfl
  | [p] => rfl
  | p :: q :: rest =>
    have ih := getLast?_stepPath (q :: rest)
    have hlast : (p :: q :: rest).getLast? = (q :: rest).getLast? := List.getLast?_cons_cons
    rw [stepPath_cons_cons, List.getLast?_cons_cons, hlast, ← ih]
    rfl

end Vertices

/-- What holds the vertices of a polyline holds all of it, if it is convex. -/
theorem polyline_subset {box : Set (ℚ × ℚ)} (hbox : Convex ℚ box) {path : List (ℚ × ℚ)}
    (h : ∀ v ∈ path, v ∈ box) : polyline path ⊆ box := by
  match path with
  | [] => exact Set.empty_subset box
  | [v] => exact Set.singleton_subset_iff.2 (h v List.mem_cons_self)
  | v :: w :: rest =>
    have hw : ∀ u ∈ w :: rest, u ∈ box := fun u hu ↦ h u (List.mem_cons_of_mem _ hu)
    exact Set.union_subset
      (hbox.segment_subset (h v List.mem_cons_self) (hw w List.mem_cons_self))
      (polyline_subset hbox hw)

/-- The part of the plane that is shown: abscissas from the beginning of the axis to before its end,
ordinates above zero and up to one. -/
def shown (axis : ℚ × ℚ) : Set (ℚ × ℚ) :=
  Set.Ico axis.1 axis.2 ×ˢ Set.Ioc 0 1

theorem convex_shown (axis : ℚ × ℚ) : Convex ℚ (shown axis) :=
  (convex_Ico _ _).prod (convex_Ioc _ _)

/-! ### The curve of a log -/

/-- Exact fractions are shares: above zero and up to one. -/
theorem fraction_mem {sorted : List ℚ} {y : ℚ}
    (hy : y ∈ (curvePoints sorted : List (CurvePoint ℚ ℚ)).map (·.fraction)) : 0 < y ∧ y ≤ 1 := by
  obtain ⟨p, hp, rfl⟩ := List.mem_map.1 hy
  obtain ⟨i, hi, rfl⟩ := List.getElem_of_mem hp
  have hcount : i + 1 ≤ sorted.length := Nat.succ_le_of_lt (by simpa using hi)
  have hpos : (0 : ℚ) < sorted.length := by exact_mod_cast i.succ_pos.trans_le hcount
  rw [getElem_curvePoints_exact]
  exact ⟨by positivity, (div_le_one hpos).2 (by exact_mod_cast hcount)⟩

theorem millisOf_nonneg (micros : ℕ) : (0 : ℚ) ≤ millisOf micros :=
  div_nonneg (Nat.cast_nonneg _) (Nat.cast_nonneg _)

namespace Extraction

variable {ρ : Type} [LineRecognizer ρ]

/-- No latency of a log is negative. -/
theorem values_nonneg (recognizers : List ρ) (lines : List (List Char)) :
    ∀ x ∈ (ofLines recognizers lines : Extraction ℚ).series.values, 0 ≤ x := by
  intro x hx
  obtain ⟨m, hm, rfl⟩ := List.mem_map.1 hx
  obtain ⟨i, line, -, r, micros, -, rfl⟩ := ((exact_ofLines recognizers lines).mem_iff m).1 hm
  exact millisOf_nonneg micros

/-- **The axis holds the curve.** If a log has a latency, the axis goes from zero to an end above
zero. Each vertex of the path lies at a latency from zero to before that end, and at a height above
zero and up to one; so nothing on the path lies outside the part that is shown. The path ends at
the greatest latency, at height one. -/
theorem axis_holds_curve (recognizers : List ρ) (lines : List (List Char)) :
    let s : Series ℚ := (ofLines recognizers lines).series
    s.measurements ≠ [] →
      ∃ (points : List (CurvePoint ℚ ℚ)) (hi greatest : ℚ), s.curve = .ok points ∧
        axisRange points = (0, hi) ∧ 0 < hi ∧
        (∀ v ∈ stepPath points, 0 ≤ v.1 ∧ v.1 < hi ∧ 0 < v.2 ∧ v.2 ≤ 1) ∧
        polyline (stepPath points) ⊆ shown (0, hi) ∧
        IsGreatest {x | x ∈ s.values} greatest ∧
        (stepPath points).getLast? = some (greatest, 1) := by
  intro s hmeasurements
  have hne : s.sorted ≠ [] := mt Series.sorted_eq_nil_iff.1 hmeasurements
  have hmem : {x | x ∈ s.values} = {x | x ∈ s.sorted} := Set.ext fun x ↦ s.sorted_perm.mem_iff.symm
  have hgreatest : IsGreatest {x | x ∈ s.values} (s.sorted.getLast hne) :=
    hmem ▸ isGreatest_getLast hne s.pairwise_le_sorted
  have hnonneg := values_nonneg recognizers lines
  have hlatencies :
      {x | x ∈ (curvePoints s.sorted : List (CurvePoint ℚ ℚ)).map (·.latency)} =
        {x | x ∈ s.values} := by
    rw [map_latency_curvePoints, hmem]
  have hcurve : IsGreatest
      {x | x ∈ (curvePoints s.sorted : List (CurvePoint ℚ ℚ)).map (·.latency)}
      (s.sorted.getLast hne) :=
    hlatencies ▸ hgreatest
  obtain ⟨hi, haxis, hlt⟩ := exists_axisRange hcurve (hnonneg _ hgreatest.1)
  have hvertices : ∀ v ∈ (stepPath (curvePoints s.sorted) : List (ℚ × ℚ)),
      0 ≤ v.1 ∧ v.1 < hi ∧ 0 < v.2 ∧ v.2 ≤ 1 := by
    intro v hv
    obtain ⟨hlatency, hfraction⟩ := mem_stepPath hv
    have hvalue : v.1 ∈ {x | x ∈ s.values} := hlatencies ▸ hlatency
    exact ⟨hnonneg _ hvalue, (hgreatest.2 hvalue).trans_lt hlt, fraction_mem hfraction⟩
  refine ⟨curvePoints s.sorted, hi, s.sorted.getLast hne, if_neg hne, haxis,
    (hnonneg _ hgreatest.1).trans_lt hlt, hvertices, ?_, hgreatest, ?_⟩
  · refine polyline_subset (convex_shown _) fun v hv ↦ ?_
    obtain ⟨hlow, hhigh, hfraction⟩ := hvertices v hv
    exact ⟨⟨hlow, hhigh⟩, hfraction⟩
  · have hlast := getLast?_fraction_curvePoints hne
    obtain ⟨p, hp, hfraction⟩ := Option.map_eq_some_iff.1 hlast
    have hlatency : s.sorted.getLast? = some p.latency := by
      rw [← map_latency_curvePoints (β := ℚ) s.sorted, List.getLast?_map, hp]
      rfl
    rw [List.getLast?_eq_some_getLast hne, Option.some.injEq] at hlatency
    rw [getLast?_stepPath, hp, hlatency, ← hfraction]
    rfl

/-- Two latencies, both zero: the axis ends at one all the same, and the path rises above zero. -/
theorem axis_holds_curve_of_zeros :
    let s : Series ℚ :=
      (ofLines Pattern.standardOrder ["took 0 us".toList, "a;000".toList]).series
    s.measurements ≠ [] ∧
      ∃ (points : List (CurvePoint ℚ ℚ)) (hi : ℚ), s.curve = .ok points ∧
        axisRange points = (0, hi) ∧ 0 < hi ∧ (stepPath points).getLast? = some (0, 1) := by
  intro s
  have hne : s.measurements ≠ [] := by decide
  obtain ⟨points, hi, greatest, hpoints, haxis, hpos, -, -, hgreatest, hlast⟩ :=
    axis_holds_curve Pattern.standardOrder ["took 0 us".toList, "a;000".toList] hne
  have hzero : ∀ x ∈ s.values, x = 0 := by decide +kernel
  obtain rfl : greatest = 0 := hzero greatest hgreatest.1
  exact ⟨hne, points, hi, hpoints, haxis, hpos, hlast⟩

end Extraction

end LatencyCurve
