import LatencyCurve.Fault
import LatencyCurve.Log.Series
import LatencyCurve.Number.Layout

/-!
# Percentiles and the summary of a series

A percentile interpolates between the two nearest ranks: among `n` values in ascending order, the
percentile `p` stands at rank `p / 100 * (n - 1)`, counted from zero. Percentiles below zero are
read as zero and those above one hundred as one hundred, so no rank is ever out of range; what is
not a number counts as zero.

The summary of a series has its count, smallest and largest value, mean, standard deviation and four
percentiles. Everything but the square root in the standard deviation is computed for any quantity.
-/

namespace LatencyCurve

variable {α : Type} [Quantity α]

/-! ### Percentiles -/

/-- A requested percentile as one between zero and one hundred. -/
def clampPercent (p : α) : α :=
  let zero := Quantity.ofNat 0
  let hundred := Quantity.ofNat 100
  if Quantity.lt zero p then (if Quantity.lt hundred p then hundred else p) else zero

/-- The rank at which a percentile stands among a number of values, counted from zero. -/
def percentileRank (count : Nat) (p : α) : α :=
  clampPercent p / Quantity.ofNat 100 * (Quantity.ofNat count - Quantity.ofNat 1)

/-- The percentile of values in ascending order; there is none of no values. -/
def percentile? (sorted : List α) (p : α) : Option α :=
  let rank := percentileRank sorted.length p
  let lower := Quantity.floor rank
  let upper := Quantity.ceil rank
  match sorted[lower]?, sorted[upper]? with
  | some low, some high =>
    if lower = upper then some low
    else some (low + (rank - Quantity.ofNat lower) * (high - low))
  | _, _ => none

/-- A percentile and its value. -/
structure Percentile (α : Type) where
  /-- Which percentile -/
  percent : α
  /-- Its value in milliseconds -/
  latency : α
deriving DecidableEq

/-- The name of a percentile: `p50`, `p99.9`. -/
def percentileLabel (percent : Float) : String :=
  "p" ++ (if isWhole percent then fixedText 0 percent else plainText percent)

/-- The percentiles of a summary. -/
def summaryPercents : List Nat :=
  [50, 90, 95, 99]

/-! ### Moments -/

/-- The mean of some values. -/
def mean (xs : List α) : α :=
  Quantity.sum xs / Quantity.ofNat xs.length

/-- The mean of the squared distances from the mean. -/
def variance (xs : List α) : α :=
  let centre := mean xs
  Quantity.sum (xs.map fun x ↦ (x - centre) * (x - centre)) / Quantity.ofNat xs.length

/-! ### Summary -/

/-- The statistics of a series. -/
structure Summary (α : Type) where
  /-- How many values there are -/
  count : Nat
  /-- The smallest value -/
  min : α
  /-- The largest value -/
  max : α
  /-- The mean -/
  mean : α
  /-- The standard deviation, or the variance before the root has been taken -/
  deviation : α
  /-- The percentiles, in ascending order -/
  percentiles : List (Percentile α)
deriving DecidableEq

/-- Without latencies there is no summary. -/
def Fault.noSummary : Fault :=
  ⟨.empty, "cannot summarize zero latency measurements"⟩

namespace Summary

/-- The summary of values in ascending order, given how the deviation is taken from the variance. -/
def ofSortedWith (root : α → α) (sorted : List α) : Except Fault (Summary α) :=
  match sorted.head?, sorted.getLast? with
  | some least, some greatest =>
    .ok
      { count := sorted.length
        min := least
        max := greatest
        mean := LatencyCurve.mean sorted
        deviation := root (variance sorted)
        percentiles :=
          summaryPercents.filterMap fun p ↦
            (percentile? sorted (Quantity.ofNat p)).map fun v ↦ ⟨Quantity.ofNat p, v⟩ }
  | _, _ => .error .noSummary

/-- The summary of values in ascending order. -/
def ofSorted (sorted : List Float) : Except Fault (Summary Float) :=
  ofSortedWith Float.sqrt sorted

/-- The summary of a series, given how the deviation is taken from the variance. -/
def ofSeriesWith (root : α → α) (s : Series α) : Except Fault (Summary α) :=
  ofSortedWith root s.sorted

/-- The summary of a series. -/
def ofSeries (s : Series Float) : Except Fault (Summary Float) :=
  ofSeriesWith Float.sqrt s

/-- The value of a percentile that a summary has. -/
def lookup (s : Summary Float) (percent : Float) : Option Float :=
  (s.percentiles.find? (·.percent == percent)).map (·.latency)

end Summary

end LatencyCurve
