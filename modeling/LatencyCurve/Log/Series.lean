import LatencyCurve.Log.Recognizer
import LatencyCurve.Number.Quantity

/-!
# Measurements and series

A measurement is one latency together with the line it was found in; a series is what one log
yields, in file order. Latencies are in milliseconds, and so a thousandth of what a line states.

The statistics of a series are taken from its values in ascending order (`Series.sorted`), which
depend only on which values there are, not on the order of the lines.
-/

namespace LatencyCurve

/-- A latency found in a log. -/
structure Measurement (α : Type) where
  /-- The latency in milliseconds -/
  latency : α
  /-- Number of the line, counted from one -/
  line : Nat
  /-- The form in which the line states the latency -/
  pattern : Pattern
deriving DecidableEq

/-- How many microseconds a millisecond has. -/
def microsPerMilli : Nat := 1000

/-- A number of microseconds in milliseconds. -/
def millisOf {α : Type} [Quantity α] (micros : Nat) : α :=
  Quantity.ofNat micros / Quantity.ofNat microsPerMilli

/-- The measurement of a number of microseconds. -/
def Measurement.ofMicros {α : Type} [Quantity α] (micros line : Nat) (pattern : Pattern) :
    Measurement α :=
  ⟨millisOf micros, line, pattern⟩

/-- The measurements of one log, in file order. -/
structure Series (α : Type) where
  /-- The measurements in file order -/
  measurements : List (Measurement α)
deriving DecidableEq

namespace Series

variable {α : Type}

/-- The series without measurements. -/
def empty : Series α := ⟨[]⟩

/-- A series with one more measurement. -/
def push (s : Series α) (m : Measurement α) : Series α :=
  ⟨s.measurements ++ [m]⟩

/-- How many measurements a series has. -/
def length (s : Series α) : Nat :=
  s.measurements.length

/-- Whether a series has no measurements. -/
def isEmpty (s : Series α) : Bool :=
  s.measurements.isEmpty

/-- The latencies in file order. -/
def values (s : Series α) : List α :=
  s.measurements.map (·.latency)

/-- The latencies in ascending order. -/
def sorted [Quantity α] (s : Series α) : List α :=
  s.values.mergeSort Quantity.atMost

/-- How many measurements a form has yielded. -/
def countFor (s : Series α) (pattern : Pattern) : Nat :=
  s.measurements.countP (·.pattern = pattern)

@[simp] theorem length_values (s : Series α) : s.values.length = s.length := by
  simp [values, length]

@[simp] theorem length_sorted [Quantity α] (s : Series α) : s.sorted.length = s.length := by
  simp [sorted, List.length_mergeSort]

@[simp] theorem length_push (s : Series α) (m : Measurement α) :
    (s.push m).length = s.length + 1 := by
  simp [push, length]

end Series

end LatencyCurve
