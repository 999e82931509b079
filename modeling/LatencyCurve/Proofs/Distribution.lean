import LatencyCurve.Proofs.Series
import Mathlib.Algebra.Order.Field.Basic
import Mathlib.Algebra.Order.Field.Rat

/-!
# The curve is the distribution function

At a latency `x`, the empirical distribution function of `N` latencies is `k / N`, where `k` counts
the latencies that are at most `x`. A curve is built from ranks and never counts anything, so the
two meet only because its points ascend: the points up to `x` are then the first `k` of them
(`filter_eq_take_countP`), and the last of these has rank `k`. Where latencies are equal several
points share one latency, and it is the last of them that has the height of the function.

`IsDistribution` says this for fractions of any type, since a height is the quotient of two counts
whatever it is computed in. That fractions increase and end at one is said of exact fractions.
-/

namespace LatencyCurve

variable {α β : Type}

/-! ### Ascending lists and thresholds -/

/-- If a property passes from later members of a list to earlier ones, the members that have it come
first, and their number says how many they are. -/
theorem filter_eq_take_countP {p : α → Bool} {l : List α}
    (h : l.Pairwise fun a b ↦ p b = true → p a = true) : l.filter p = l.take (l.countP p) := by
  induction l with
  | nil => rfl
  | cons a l ih =>
    obtain ⟨ha, hl⟩ := List.pairwise_cons.1 h
    by_cases hp : p a = true
    · rw [List.filter_cons_of_pos hp, List.countP_cons_of_pos hp, List.take_succ_cons, ih hl]
    -- The first member lacks the property, so no later one can have it.
    · have hnone : ∀ b ∈ l, ¬ p b = true := fun b hb hpb ↦ hp (ha b hb hpb)
      rw [List.filter_cons_of_neg hp, List.countP_cons_of_neg hp, List.filter_eq_nil_iff.2 hnone,
        List.countP_eq_zero.2 hnone, List.take_zero]

/-! ### The points of a curve -/

section Points

variable [Quantity β]

@[simp] theorem length_curvePoints (sorted : List α) :
    (curvePoints sorted : List (CurvePoint α β)).length = sorted.length := by
  simp [curvePoints]

theorem curvePoints_ne_nil {sorted : List α} :
    (curvePoints sorted : List (CurvePoint α β)) ≠ [] ↔ sorted ≠ [] := by
  rw [← List.length_pos_iff, length_curvePoints, List.length_pos_iff]

@[simp] theorem map_latency_curvePoints (sorted : List α) :
    (curvePoints sorted : List (CurvePoint α β)).map (·.latency) = sorted := by
  rw [curvePoints, List.map_map]
  exact List.zipIdx_map_fst 1 sorted

/-- The point of a rank, counted from zero. -/
theorem getElem?_curvePoints {sorted : List α} {i : Nat} (hi : i < sorted.length) :
    (curvePoints sorted : List (CurvePoint α β))[i]? =
      some ⟨sorted[i], Quantity.ofNat (i + 1) / Quantity.ofNat sorted.length⟩ := by
  simp [curvePoints, hi, Nat.add_comm]

end Points

/-! ### Exact fractions -/

/-- A point of exact fraction, by its rank. -/
theorem getElem_curvePoints_exact {sorted : List α} {i : Nat}
    (hi : i < (curvePoints sorted : List (CurvePoint α ℚ)).length) :
    (curvePoints sorted : List (CurvePoint α ℚ))[i].fraction = (i + 1 : ℚ) / sorted.length := by
  have hi' : i < sorted.length := by simpa using hi
  have hpoint := getElem?_curvePoints (β := ℚ) hi'
  rw [List.getElem?_eq_getElem hi, Option.some.injEq] at hpoint
  rw [hpoint]
  simp [Quantity.ofNat]

/-- Exact fractions increase from each point to the next. -/
theorem pairwise_fraction_curvePoints (sorted : List α) :
    (curvePoints sorted : List (CurvePoint α ℚ)).Pairwise fun p q ↦ p.fraction < q.fraction := by
  rw [List.pairwise_iff_getElem]
  intro i j hi hj hij
  rw [getElem_curvePoints_exact, getElem_curvePoints_exact]
  have hpos : (0 : ℚ) < sorted.length := by
    have hj' : j < sorted.length := by simpa using hj
    exact_mod_cast Nat.zero_lt_of_lt hj'
  have hlt : (i + 1 : ℚ) < j + 1 := by exact_mod_cast Nat.succ_lt_succ hij
  exact div_lt_div_of_pos_right hlt hpos

/-- The first fraction is that of one value. -/
theorem head?_fraction_curvePoints {sorted : List α} (h : sorted ≠ []) :
    (curvePoints sorted : List (CurvePoint α ℚ)).head?.map (·.fraction) =
      some ((1 : ℚ) / sorted.length) := by
  rw [List.head?_eq_getElem?, getElem?_curvePoints (List.length_pos_iff.2 h)]
  simp [Quantity.ofNat]

/-- The last fraction is one. -/
theorem getLast?_fraction_curvePoints {sorted : List α} (h : sorted ≠ []) :
    (curvePoints sorted : List (CurvePoint α ℚ)).getLast?.map (·.fraction) = some (1 : ℚ) := by
  have hpos : 0 < sorted.length := List.length_pos_iff.2 h
  have hlast : sorted.length - 1 + 1 = sorted.length := Nat.sub_add_cancel hpos
  have hne : (sorted.length : ℚ) ≠ 0 := by exact_mod_cast hpos.ne'
  rw [List.getLast?_eq_getElem?, length_curvePoints, getElem?_curvePoints (by omega)]
  simp [Quantity.ofNat, hlast, hne]

/-! ### What a distribution function is -/

variable [Quantity α] [Quantity β]

/-- How many of some values are at most as large as a threshold. -/
def countAtMost (values : List α) (x : α) : Nat :=
  values.countP fun v ↦ Quantity.atMost v x

/-- The points of a curve that lie at a threshold or before it. -/
def pointsUpTo (points : List (CurvePoint α β)) (x : α) : List (CurvePoint α β) :=
  points.filter fun p ↦ Quantity.atMost p.latency x

/-- Some points are the distribution function of some values. -/
structure IsDistribution (values : List α) (points : List (CurvePoint α β)) : Prop where
  /-- There is a point for each value. -/
  latencies_perm : (points.map (·.latency)).Perm values
  /-- The latencies ascend. -/
  ascending : points.Pairwise fun p q ↦ Quantity.atMost p.latency q.latency = true
  /-- Below all values there is no point. -/
  pointsUpTo_eq_nil : ∀ x, countAtMost values x = 0 → pointsUpTo points x = []
  /-- Elsewhere the last point up to a threshold has the share of values up to there. -/
  getLast?_pointsUpTo : ∀ x, countAtMost values x ≠ 0 →
    (pointsUpTo points x).getLast?.map (·.fraction) =
      some (Quantity.ofNat (countAtMost values x) / Quantity.ofNat values.length)

/-! ### Ranks count -/

/-- Latencies ascend from point to point as they do in the list. -/
theorem pairwise_curvePoints {sorted : List α}
    (h : sorted.Pairwise fun x y ↦ Quantity.atMost x y = true) :
    (curvePoints sorted : List (CurvePoint α β)).Pairwise
      fun p q ↦ Quantity.atMost p.latency q.latency = true := by
  have hlatencies : ((curvePoints sorted : List (CurvePoint α β)).map (·.latency)).Pairwise
      fun x y ↦ Quantity.atMost x y = true := by
    rwa [map_latency_curvePoints]
  exact List.pairwise_map.1 hlatencies

/-- Up to a threshold there are as many points as values, and they are the first ones. -/
theorem pointsUpTo_curvePoints {sorted : List α}
    (h : sorted.Pairwise fun x y ↦ Quantity.atMost x y = true) (x : α) :
    pointsUpTo (curvePoints sorted : List (CurvePoint α β)) x =
      (curvePoints sorted).take (countAtMost sorted x) := by
  -- Values are counted, points are filtered: the latencies of the points are the values.
  have hcount := List.countP_map (p := fun v ↦ Quantity.atMost v x) (f := CurvePoint.latency)
    (l := (curvePoints sorted : List (CurvePoint α β)))
  rw [map_latency_curvePoints] at hcount
  rw [pointsUpTo, countAtMost, hcount]
  refine filter_eq_take_countP ((pairwise_curvePoints h).imp fun {p q} hpq hq ↦ ?_)
  exact Quantity.atMost_trans _ _ _ hpq hq

/-- **Ranks count**: over ascending values the points are the distribution function. -/
theorem isDistribution_curvePoints {sorted : List α}
    (h : sorted.Pairwise fun x y ↦ Quantity.atMost x y = true) :
    IsDistribution sorted (curvePoints sorted : List (CurvePoint α β)) where
  latencies_perm := by rw [map_latency_curvePoints]
  ascending := pairwise_curvePoints h
  pointsUpTo_eq_nil x hx := by rw [pointsUpTo_curvePoints h, hx, List.take_zero]
  getLast?_pointsUpTo x hx := by
    have hle : countAtMost sorted x ≤ sorted.length := List.countP_le_length
    obtain ⟨i, hi⟩ := Nat.exists_eq_succ_of_ne_zero hx
    rw [pointsUpTo_curvePoints h, List.getLast?_take, if_neg hx, hi, Nat.succ_sub_one,
      getElem?_curvePoints (by omega)]
    rfl

/-- The last point up to a threshold, where there is one, has the share of values up to there. -/
theorem exists_getLast?_pointsUpTo {sorted : List α}
    (h : sorted.Pairwise fun x y ↦ Quantity.atMost x y = true) {x : α}
    (hx : countAtMost sorted x ≠ 0) :
    ∃ q : CurvePoint α β, (pointsUpTo (curvePoints sorted) x).getLast? = some q ∧
      q.fraction = Quantity.ofNat (countAtMost sorted x) / Quantity.ofNat sorted.length :=
  Option.map_eq_some_iff.1 ((isDistribution_curvePoints h).getLast?_pointsUpTo x hx)

/-- A distribution function belongs to the values in any order. -/
theorem IsDistribution.of_perm {values values' : List α} {points : List (CurvePoint α β)}
    (h : IsDistribution values points) (hperm : values.Perm values') :
    IsDistribution values' points := by
  have hcount (x : α) : countAtMost values x = countAtMost values' x := hperm.countP_eq _
  refine ⟨h.latencies_perm.trans hperm, h.ascending, fun x hx ↦ ?_, fun x hx ↦ ?_⟩
  · exact h.pointsUpTo_eq_nil x ((hcount x).trans hx)
  · rw [← hcount, ← hperm.length_eq]
    exact h.getLast?_pointsUpTo x (by rwa [hcount])

/-! ### The curve of a series -/

namespace Series

/-- Only the empty series has no curve. -/
theorem curve_eq (s : Series α) :
    (s.curve : Except Fault (List (CurvePoint α β))) =
      if s.measurements = [] then .error .noCurve else .ok (curvePoints s.sorted) := by
  simp [curve, curveOfSorted]

/-- **The curve of a series is its distribution function.** Without measurements there is none. With
`N` of them the curve has `N` points; at each latency its height is the number of measurements up to
there divided by `N`; and its exact fractions increase from `1 / N` to one. -/
theorem curve_is_distribution_function (s : Series α) :
    ((s.curve : Except Fault (List (CurvePoint α β))) = .error .noCurve ↔ s.measurements = []) ∧
      Fault.noCurve.kind = .empty ∧
      (s.measurements ≠ [] →
        (∃ points : List (CurvePoint α β), s.curve = .ok points ∧ points.length = s.length ∧
          IsDistribution s.values points) ∧
        ∃ points : List (CurvePoint α ℚ), s.curve = .ok points ∧ IsDistribution s.values points ∧
          points.Pairwise (fun p q ↦ p.fraction < q.fraction) ∧
          points.head?.map (·.fraction) = some ((1 : ℚ) / s.length) ∧
          points.getLast?.map (·.fraction) = some (1 : ℚ)) := by
  have hdistribution {γ : Type} [Quantity γ] :
      IsDistribution s.values (curvePoints s.sorted : List (CurvePoint α γ)) :=
    (isDistribution_curvePoints s.pairwise_sorted).of_perm s.sorted_perm
  refine ⟨?_, rfl, fun hne ↦ ?_⟩
  · rw [curve_eq]
    split <;> simp_all
  · have hsorted : s.sorted ≠ [] := mt sorted_eq_nil_iff.1 hne
    simp only [curve_eq, if_neg hne]
    refine ⟨⟨_, rfl, by simp, hdistribution⟩, _, rfl, hdistribution,
      pairwise_fraction_curvePoints _, ?_, getLast?_fraction_curvePoints hsorted⟩
    rw [head?_fraction_curvePoints hsorted, length_sorted]

/-- Three measurements, two of them equal: up to the smaller latency lies a third of them, and at
the larger one, where two points meet, the curve reaches one. -/
theorem curve_of_tied_latencies :
    let s : Series Float :=
      ⟨[.ofMicros 2000 1 .took, .ofMicros 1000 2 .took, .ofMicros 2000 4 .took]⟩
    s.measurements ≠ [] ∧ ∃ points : List (CurvePoint Float ℚ), s.curve = .ok points ∧
      (pointsUpTo points 1.0).getLast?.map (·.fraction) = some (1 / 3) ∧
      (pointsUpTo points 2.0).getLast?.map (·.fraction) = some (3 / 3) := by
  intro s
  have hne : s.measurements ≠ [] := List.cons_ne_nil _ _
  have hone : countAtMost s.values 1.0 = 1 := by decide
  have hall : countAtMost s.values 2.0 = 3 := by decide
  obtain ⟨-, -, hcurve⟩ := curve_is_distribution_function (β := ℚ) s
  obtain ⟨⟨points, hpoints, -, hdistribution⟩, -⟩ := hcurve hne
  have hlow := hdistribution.getLast?_pointsUpTo 1.0 (by rw [hone]; decide)
  have hhigh := hdistribution.getLast?_pointsUpTo 2.0 (by rw [hall]; decide)
  rw [hone] at hlow
  rw [hall] at hhigh
  exact ⟨hne, points, hpoints, hlow, hhigh⟩

end Series

end LatencyCurve
