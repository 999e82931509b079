import LatencyCurve.Fault
import LatencyCurve.Log.Series

/-!
# The distribution curve

The empirical distribution function of a list of latencies: at each latency, the fraction of all
latencies that are at most as large. The latencies are sorted, and the one of rank `i` out of `n`
makes a point of height `i / n`; equal latencies make several points, of which the last one has the
height of the function.

Latencies and fractions may be quantities of different types: a fraction of two counts is exact in
`Rat` whatever the latencies are measured in.

The curve that is drawn, `stepPath`, holds the height of each point up to the next latency and rises
there.
-/

namespace LatencyCurve

/-- A point of a distribution curve. -/
structure CurvePoint (α β : Type) where
  /-- A latency -/
  latency : α
  /-- The fraction of latencies up to this rank -/
  fraction : β
deriving DecidableEq

/-- Without latencies there is no curve. -/
def Fault.noCurve : Fault :=
  ⟨.empty, "cannot compute a CDF over zero latency measurements"⟩

variable {α β : Type}

/-- The points of the curve over latencies that are in ascending order. -/
def curvePoints [Quantity β] (sorted : List α) : List (CurvePoint α β) :=
  (sorted.zipIdx 1).map fun x ↦
    ⟨x.1, Quantity.ofNat x.2 / Quantity.ofNat sorted.length⟩

/-- The curve over latencies that are in ascending order. -/
def curveOfSorted [Quantity β] (sorted : List α) : Except Fault (List (CurvePoint α β)) :=
  if sorted = [] then .error .noCurve else .ok (curvePoints sorted)

/-- The curve of a series. -/
def Series.curve [Quantity α] [Quantity β] (s : Series α) : Except Fault (List (CurvePoint α β)) :=
  curveOfSorted s.sorted

/-! ### The path that is drawn -/

/-- The rest of the path, from a height on: to each latency at the old height, then up. -/
def stepsFrom (height : β) : List (CurvePoint α β) → List (α × β)
  | [] => []
  | p :: rest => (p.latency, height) :: (p.latency, p.fraction) :: stepsFrom p.fraction rest

/-- The vertices of the path that is drawn for a curve. -/
def stepPath : List (CurvePoint α β) → List (α × β)
  | [] => []
  | p :: rest => (p.latency, p.fraction) :: stepsFrom p.fraction rest

/-- How far the axis reaches past the largest latency: by a twentieth. -/
def axisFactor [Quantity α] : α :=
  Quantity.ofNat 105 / Quantity.ofNat 100

/-- The range of the latency axis: from zero to a little past the largest latency, and to one if
there is none above zero. -/
def axisRange [Quantity α] (curve : List (CurvePoint α β)) : α × α :=
  let zero := Quantity.ofNat 0
  let largest := (curve.map (·.latency)).foldl Quantity.larger zero
  if Quantity.lt zero largest then (zero, largest * axisFactor) else (zero, Quantity.ofNat 1)

end LatencyCurve
