import LatencyCurve.Stats.Curve
import Mathlib.Analysis.Convex.Segment
import Mathlib.Order.Bounds.Basic
import Mathlib.Tactic.NormNum

/-!
# The path that is drawn is the graph of the curve

The path of a curve goes from each point at its height to the next latency, and rises there to the
next point. As a set of points of the plane (`polyline`) it is compared with the function that it
stands for: at an abscissa `t`, the height of the last point of the curve up to `t` (`lastUpTo?`).

Where latencies are equal the path has several vertical pieces above one abscissa, and it is the
greatest of its ordinates there that counts (`exists_isGreatest_ordinates`); strictly between two
latencies the path has one ordinate only (`ordinates_between`). Both follow the path point by point:
`mem_ordinates_cons_cons` says what the two segments from one point to the next add, and
`latency_le_of_mem_ordinates` that nothing after them comes back.

Coordinates are elements of any ordered field, so abscissas may be real where latencies are
rational.
-/

namespace LatencyCurve

/-! ### Vertices -/

section Vertices

variable {α β : Type}

/-- A point of a curve as a vertex. -/
def CurvePoint.vertex (p : CurvePoint α β) : α × β :=
  (p.latency, p.fraction)

@[simp] theorem stepPath_singleton (p : CurvePoint α β) : stepPath [p] = [p.vertex] :=
  rfl

theorem stepPath_cons_cons (p q : CurvePoint α β) (rest : List (CurvePoint α β)) :
    stepPath (p :: q :: rest) = p.vertex :: (q.latency, p.fraction) :: stepPath (q :: rest) :=
  rfl

theorem length_stepPath (curve : List (CurvePoint α β)) :
    (stepPath curve).length = 2 * curve.length - 1 := by
  match curve with
  | [] => rfl
  | [p] => rfl
  | p :: q :: rest =>
    have ih := length_stepPath (q :: rest)
    simp only [stepPath_cons_cons, List.length_cons] at ih ⊢
    omega

/-- The points of the curve are the vertices at even places. -/
theorem getElem?_stepPath_even (curve : List (CurvePoint α β)) (i : ℕ) :
    (stepPath curve)[2 * i]? = curve[i]?.map CurvePoint.vertex := by
  match curve, i with
  | [], i => rfl
  | p :: rest, 0 => rfl
  | [p], i + 1 => rfl
  | p :: q :: rest, i + 1 => exact getElem?_stepPath_even (q :: rest) i

/-- Between two of them stands the corner at the height of the one and the latency of the other. -/
theorem getElem?_stepPath_odd (curve : List (CurvePoint α β)) (i : ℕ) :
    (stepPath curve)[2 * i + 1]? =
      curve[i]?.bind fun p ↦ curve[i + 1]?.map fun q ↦ (q.latency, p.fraction) := by
  match curve, i with
  | [], i => rfl
  | [p], 0 => rfl
  | p :: q :: rest, 0 => rfl
  | [p], i + 1 => rfl
  | p :: q :: rest, i + 1 => exact getElem?_stepPath_odd (q :: rest) i

theorem exists_of_getElem?_stepPath_odd {curve : List (CurvePoint α β)} {i : ℕ} {v : α × β}
    (h : (stepPath curve)[2 * i + 1]? = some v) :
    ∃ p q, curve[i]? = some p ∧ curve[i + 1]? = some q ∧ (q.latency, p.fraction) = v := by
  rw [getElem?_stepPath_odd] at h
  obtain ⟨p, hp, h⟩ := Option.bind_eq_some_iff.1 h
  obtain ⟨q, hq, h⟩ := Option.map_eq_some_iff.1 h
  exact ⟨p, q, hp, hq, h⟩

end Vertices

/-! ### Ascending curves -/

section Ascending

variable {K : Type} [LinearOrder K]

/-- From point to point neither the latencies nor the fractions decrease. -/
def Ascends (curve : List (CurvePoint K K)) : Prop :=
  curve.Pairwise fun p q ↦ p.latency ≤ q.latency ∧ p.fraction ≤ q.fraction

/-- The last point of a curve whose latency is at most `t`. -/
def lastUpTo? (curve : List (CurvePoint K K)) (t : K) : Option (CurvePoint K K) :=
  (curve.filter fun p ↦ p.latency ≤ t).getLast?

theorem Ascends.head_le {p q : CurvePoint K K} {rest : List (CurvePoint K K)}
    (h : Ascends (p :: rest)) (hq : q ∈ p :: rest) :
    p.latency ≤ q.latency ∧ p.fraction ≤ q.fraction := by
  obtain rfl | hq := List.mem_cons.1 hq
  · exact ⟨le_rfl, le_rfl⟩
  · exact (List.pairwise_cons.1 h).1 q hq

theorem Ascends.next_le {curve : List (CurvePoint K K)} (h : Ascends curve) {i : ℕ}
    {p q : CurvePoint K K} (hp : curve[i]? = some p) (hq : curve[i + 1]? = some q) :
    p.latency ≤ q.latency ∧ p.fraction ≤ q.fraction := by
  obtain ⟨hi, rfl⟩ := List.getElem?_eq_some_iff.1 hp
  obtain ⟨hi', rfl⟩ := List.getElem?_eq_some_iff.1 hq
  exact List.pairwise_iff_getElem.1 h i (i + 1) hi hi' (Nat.lt_succ_self i)

/-- Before the second latency only the first point is reached. -/
theorem lastUpTo?_of_lt {p q : CurvePoint K K} {rest : List (CurvePoint K K)}
    (h : Ascends (q :: rest)) {t : K} (hpt : p.latency ≤ t) (htq : t < q.latency) :
    lastUpTo? (p :: q :: rest) t = some p := by
  have hnone : (q :: rest).filter (fun r ↦ r.latency ≤ t) = [] := by
    refine List.filter_eq_nil_iff.2 fun r hr ↦ ?_
    simpa using htq.trans_le (h.head_le hr).1
  rw [lastUpTo?, List.filter_cons_of_pos (by simpa using hpt), hnone]
  rfl

/-- A point in front does not change which one is the last. -/
theorem lastUpTo?_cons {curve : List (CurvePoint K K)} {p r : CurvePoint K K} {t : K}
    (hr : lastUpTo? curve t = some r) : lastUpTo? (p :: curve) t = some r := by
  rw [lastUpTo?] at hr ⊢
  rw [List.filter_cons]
  split
  · rw [List.getLast?_cons, hr]
    rfl
  · exact hr

theorem mem_of_lastUpTo? {curve : List (CurvePoint K K)} {r : CurvePoint K K} {t : K}
    (hr : lastUpTo? curve t = some r) : r ∈ curve :=
  List.mem_of_mem_filter (List.mem_of_getLast? hr)

end Ascending

/-! ### The polyline -/

section Polyline

variable {K : Type} [Field K] [LinearOrder K] [IsStrictOrderedRing K]

/-- The points of a polyline: those on the segments between one vertex and the next, and a vertex
alone if there is no other. -/
def polyline : List (K × K) → Set (K × K)
  | [] => ∅
  | [v] => {v}
  | v :: w :: rest => segment K v w ∪ polyline (w :: rest)

/-- The ordinates of a polyline at an abscissa. -/
def ordinates (path : List (K × K)) (t : K) : Set K :=
  {y | (t, y) ∈ polyline path}

theorem mem_segment_horizontal {x x' y t u : K} (hx : x ≤ x') :
    (t, u) ∈ segment K (x, y) (x', y) ↔ (x ≤ t ∧ t ≤ x') ∧ u = y := by
  rw [← Prod.image_mk_segment_left, segment_eq_Icc hx]
  simp [eq_comm]

theorem mem_segment_vertical {x y y' t u : K} (hy : y ≤ y') :
    (t, u) ∈ segment K (x, y) (x, y') ↔ t = x ∧ y ≤ u ∧ u ≤ y' := by
  rw [← Prod.image_mk_segment_right, segment_eq_Icc hy]
  simp [eq_comm, and_comm]

omit [IsStrictOrderedRing K] in
theorem mem_ordinates_singleton {p : CurvePoint K K} {t y : K} :
    y ∈ ordinates (stepPath [p]) t ↔ t = p.latency ∧ y = p.fraction := by
  simp [ordinates, polyline, CurvePoint.vertex]

/-- **What one point adds to the path**: the way at its height to the next latency, and the rise to
the next point there. -/
theorem mem_ordinates_cons_cons {p q : CurvePoint K K} {rest : List (CurvePoint K K)}
    (hpq : p.latency ≤ q.latency ∧ p.fraction ≤ q.fraction) {t y : K} :
    y ∈ ordinates (stepPath (p :: q :: rest)) t ↔
      ((p.latency ≤ t ∧ t ≤ q.latency) ∧ y = p.fraction) ∨
        (t = q.latency ∧ p.fraction ≤ y ∧ y ≤ q.fraction) ∨
        y ∈ ordinates (stepPath (q :: rest)) t := by
  rw [← mem_segment_horizontal hpq.1, ← mem_segment_vertical hpq.2]
  rfl

/-- The path does not lead back before its first latency. -/
theorem latency_le_of_mem_ordinates {p : CurvePoint K K} {rest : List (CurvePoint K K)}
    (h : Ascends (p :: rest)) {t y : K} (hy : y ∈ ordinates (stepPath (p :: rest)) t) :
    p.latency ≤ t := by
  induction rest generalizing p with
  | nil => exact (mem_ordinates_singleton.1 hy).1.ge
  | cons q rest ih =>
    obtain ⟨hp, hrest⟩ := List.pairwise_cons.1 h
    have hpq := hp q List.mem_cons_self
    obtain ⟨⟨hpt, -⟩, -⟩ | ⟨rfl, -⟩ | hy := (mem_ordinates_cons_cons hpq).1 hy
    · exact hpt
    · exact hpq.1
    · exact hpq.1.trans (ih hrest hy)

/-- Before the second latency the path stays at the first height. -/
theorem ordinates_of_lt {p q : CurvePoint K K} {rest : List (CurvePoint K K)}
    (h : Ascends (p :: q :: rest)) {t : K} (hpt : p.latency ≤ t) (htq : t < q.latency) :
    ordinates (stepPath (p :: q :: rest)) t = {p.fraction} := by
  obtain ⟨hp, hrest⟩ := List.pairwise_cons.1 h
  ext y
  rw [mem_ordinates_cons_cons (hp q List.mem_cons_self), Set.mem_singleton_iff]
  constructor
  · rintro (⟨-, hy⟩ | ⟨rfl, -⟩ | hy)
    · exact hy
    · exact absurd htq (lt_irrefl _)
    · exact absurd (latency_le_of_mem_ordinates hrest hy) htq.not_ge
  · exact fun hy ↦ .inl ⟨⟨hpt, htq.le⟩, hy⟩

/-! ### The path and the curve -/

/-- **Strictly between two neighbouring latencies** the path has one ordinate, the height of the
last point up to there. -/
theorem ordinates_between {curve : List (CurvePoint K K)} (h : Ascends curve) {i : ℕ}
    {p q : CurvePoint K K} (hp : curve[i]? = some p) (hq : curve[i + 1]? = some q) {t : K}
    (hpt : p.latency < t) (htq : t < q.latency) :
    lastUpTo? curve t = some p ∧ ordinates (stepPath curve) t = {p.fraction} := by
  match curve, i with
  | p' :: q' :: rest, 0 =>
    obtain rfl : p' = p := Option.some.inj hp
    obtain rfl : q' = q := Option.some.inj hq
    exact ⟨lastUpTo?_of_lt (List.pairwise_cons.1 h).2 hpt.le htq, ordinates_of_lt h hpt.le htq⟩
  | p' :: q' :: rest, i + 1 =>
    obtain ⟨hhead, hrest⟩ := List.pairwise_cons.1 h
    obtain ⟨hlast, hordinates⟩ := ordinates_between hrest hp hq hpt htq
    refine ⟨lastUpTo?_cons hlast, ?_⟩
    -- The segments to the second point end before the abscissa.
    have hpast : q'.latency < t :=
      (Ascends.head_le hrest (List.mem_of_getElem? hp)).1.trans_lt hpt
    rw [← hordinates]
    ext y
    rw [mem_ordinates_cons_cons (hhead q' List.mem_cons_self)]
    constructor
    · rintro (⟨⟨-, htq'⟩, -⟩ | ⟨rfl, -⟩ | hy)
      · exact absurd htq' hpast.not_ge
      · exact absurd hpast (lt_irrefl _)
      · exact hy
    · exact fun hy ↦ .inr (.inr hy)

/-- From a point on, up to the last latency, the greatest ordinate is the height of the last point up
to there. -/
theorem exists_isGreatest_ordinates_cons {p : CurvePoint K K} {rest : List (CurvePoint K K)}
    (h : Ascends (p :: rest)) {t : K} (hpt : p.latency ≤ t)
    (hlast : ∃ q ∈ (p :: rest).getLast?, t ≤ q.latency) :
    ∃ r, lastUpTo? (p :: rest) t = some r ∧
      IsGreatest (ordinates (stepPath (p :: rest)) t) r.fraction := by
  induction rest generalizing p with
  | nil =>
    obtain ⟨q, hq, htq⟩ := hlast
    obtain rfl : p = q := Option.some.inj hq
    refine ⟨p, by simp [lastUpTo?, hpt], ?_⟩
    have hordinates : ordinates (stepPath [p]) t = {p.fraction} := by
      ext y
      rw [mem_ordinates_singleton, and_iff_right (le_antisymm htq hpt), Set.mem_singleton_iff]
    exact hordinates ▸ isGreatest_singleton
  | cons q rest ih =>
    obtain ⟨hp, hrest⟩ := List.pairwise_cons.1 h
    have hpq := hp q List.mem_cons_self
    obtain htq | hqt := lt_or_ge t q.latency
    · exact ⟨p, lastUpTo?_of_lt hrest hpt htq, ordinates_of_lt h hpt htq ▸ isGreatest_singleton⟩
    · obtain ⟨r, hr, hmem, hmax⟩ := ih hrest hqt (by simpa using hlast)
      refine ⟨r, lastUpTo?_cons hr, ?_, fun y hy ↦ ?_⟩
      · exact (mem_ordinates_cons_cons hpq).2 (.inr (.inr hmem))
      -- The two segments in front are no higher than the second point, and so than the last one.
      · have hqr : q.fraction ≤ r.fraction := (Ascends.head_le hrest (mem_of_lastUpTo? hr)).2
        obtain ⟨-, rfl⟩ | ⟨-, -, hyq⟩ | hy := (mem_ordinates_cons_cons hpq).1 hy
        · exact hpq.2.trans hqr
        · exact hyq.trans hqr
        · exact hmax hy

/-- **From the first latency to the last** the greatest ordinate of the path is the height of the
last point up to there. -/
theorem exists_isGreatest_ordinates {curve : List (CurvePoint K K)} (h : Ascends curve) {t : K}
    (hfirst : ∃ p ∈ curve.head?, p.latency ≤ t) (hlast : ∃ q ∈ curve.getLast?, t ≤ q.latency) :
    ∃ r, lastUpTo? curve t = some r ∧ IsGreatest (ordinates (stepPath curve) t) r.fraction := by
  obtain ⟨p, hp, hpt⟩ := hfirst
  match curve with
  | [] => cases hp
  | p' :: rest =>
    obtain rfl : p' = p := Option.some.inj hp
    exact exists_isGreatest_ordinates_cons h hpt hlast

/-- A path is drawn in steps for a curve, and it is the graph of the curve. -/
structure IsStepGraph (curve : List (CurvePoint K K)) (path : List (K × K)) : Prop where
  /-- There is a vertex for each point and one between each two. -/
  length_eq : path.length = 2 * curve.length - 1
  /-- The vertices at even places are the points of the curve in order. -/
  vertex_eq : ∀ i, path[2 * i]? = curve[i]?.map CurvePoint.vertex
  /-- From a point the path goes horizontally to the next latency, -/
  horizontal : ∀ i v w, path[2 * i]? = some v → path[2 * i + 1]? = some w →
    w.2 = v.2 ∧ v.1 ≤ w.1 ∧ curve[i + 1]?.map (·.latency) = some w.1
  /-- and from there vertically to the next point. -/
  vertical : ∀ i v w, path[2 * i + 1]? = some v → path[2 * i + 2]? = some w →
    w.1 = v.1 ∧ v.2 ≤ w.2
  /-- From the first latency to the last, the greatest ordinate is the fraction of the last point
  up to the abscissa. -/
  isGreatest : ∀ t, (∃ p ∈ curve.head?, p.latency ≤ t) → (∃ q ∈ curve.getLast?, t ≤ q.latency) →
    ∃ r, lastUpTo? curve t = some r ∧ IsGreatest (ordinates path t) r.fraction
  /-- Strictly between two neighbouring latencies it is the only one. -/
  only : ∀ i p q t, curve[i]? = some p → curve[i + 1]? = some q → p.latency < t →
    t < q.latency → lastUpTo? curve t = some p ∧ ordinates path t = {p.fraction}

/-- **The path that is drawn is the graph of the curve**: `2 N - 1` vertices for `N` points, with
the points at even places, each segment horizontal to the next latency or vertical there, and above
each abscissa the fraction of the last point up to it, alone or, at a latency, as the greatest of
the ordinates. -/
theorem path_is_graph_of_curve {curve : List (CurvePoint K K)} (h : Ascends curve) :
    IsStepGraph curve (stepPath curve) where
  length_eq := length_stepPath curve
  vertex_eq := getElem?_stepPath_even curve
  horizontal i v w hv hw := by
    obtain ⟨p, q, hp, hq, rfl⟩ := exists_of_getElem?_stepPath_odd hw
    rw [getElem?_stepPath_even, hp] at hv
    obtain rfl : p.vertex = v := Option.some.inj hv
    exact ⟨rfl, (h.next_le hp hq).1, by rw [hq]; rfl⟩
  vertical i v w hv hw := by
    obtain ⟨p, q, hp, hq, rfl⟩ := exists_of_getElem?_stepPath_odd hv
    have heven : (stepPath curve)[2 * i + 2]? = some q.vertex := by
      rw [show 2 * i + 2 = 2 * (i + 1) by omega, getElem?_stepPath_even, hq]
      rfl
    obtain rfl : q.vertex = w := Option.some.inj (heven.symm.trans hw)
    exact ⟨rfl, (h.next_le hp hq).2⟩
  isGreatest _ hfirst hlast := exists_isGreatest_ordinates h hfirst hlast
  only _ _ _ _ hp hq hpt htq := ordinates_between h hp hq hpt htq

end Polyline

/-- A curve that meets one latency twice: above it the path has the ordinates from the first height
to the last, and before the next latency it stays at the greatest of them. -/
theorem path_of_tied_points :
    let curve : List (CurvePoint ℚ ℚ) := [⟨1, 1 / 4⟩, ⟨2, 2 / 4⟩, ⟨2, 3 / 4⟩, ⟨4, 1⟩]
    Ascends curve ∧ (stepPath curve).length = 7 ∧
      IsGreatest (ordinates (stepPath curve) 2) (3 / 4) ∧
      ordinates (stepPath curve) 3 = {3 / 4} := by
  intro curve
  have hasc : Ascends curve := by
    rw [Ascends]
    decide +kernel
  have hgraph := path_is_graph_of_curve hasc
  refine ⟨hasc, hgraph.length_eq, ?_, ?_⟩
  · obtain ⟨r, hr, hgreatest⟩ :=
      hgraph.isGreatest 2 ⟨_, rfl, by norm_num⟩ ⟨_, rfl, by norm_num⟩
    have hlast : lastUpTo? curve 2 = some ⟨2, 3 / 4⟩ := by decide +kernel
    obtain rfl : (⟨2, 3 / 4⟩ : CurvePoint ℚ ℚ) = r := Option.some.inj (hlast.symm.trans hr)
    exact hgreatest
  · exact (hgraph.only 2 _ _ 3 rfl rfl (by norm_num) (by norm_num)).2

end LatencyCurve
