/-!
# Quantities

Every statistic of this library is written once, over a type of quantities, and read at two of them:
`Float`, the binary64 numbers the program computes with, and `Rat`, the exact numbers in which the
laws of those statistics are stated.

## Two orders

A binary64 number has two orders, and a statistic has to say which one it means:

* `lt` is the numeric comparison. A NaN is neither below nor above anything, and the two zeros are
  equal.
* `atMost` is the total order that sorting uses. It separates the two zeros and puts every NaN at
  one of the ends, so a sorted list is determined by its values.

At `Rat` the two agree. The laws of `atMost` are part of the class: without antisymmetry the order
in which equal-looking numbers come would be left to the sort, and with it every sum over sorted
values. For binary64 numbers antisymmetry is a fact about bit patterns (`Binary64.patternKey_inj`),
and it holds for all of them, whatever a NaN carries.
-/

namespace LatencyCurve

/-- Numbers a latency, a fraction or a percentile can be measured in. -/
class Quantity (α : Type) extends Add α, Sub α, Mul α, Div α where
  /-- The quantity nearest to a natural number. -/
  ofNat : Nat → α
  /-- Numeric comparison: false as soon as one side is not a number. -/
  lt : α → α → Bool
  /-- The total order that sorting uses. -/
  atMost : α → α → Bool
  /-- Any two quantities are related. -/
  atMost_total : ∀ x y, atMost x y || atMost y x
  /-- The order is transitive. -/
  atMost_trans : ∀ x y z, atMost x y → atMost y z → atMost x z
  /-- Quantities that are at most each other are the same. -/
  atMost_antisymm : ∀ x y, atMost x y → atMost y x → x = y
  /-- The sum of no quantities, from which sums start. -/
  emptySum : α
  /-- The largest natural number that is not above a quantity; `0` if there is none. -/
  floor : α → Nat
  /-- The least natural number that is not below a quantity; `0` if there is none. -/
  ceil : α → Nat

namespace Quantity

variable {α : Type} [Quantity α]

/-- The sum of a list, added up from the left. -/
def sum (xs : List α) : α :=
  xs.foldl (· + ·) emptySum

/-- The larger of two quantities, the first one unless the second is numerically above it. -/
def larger (x y : α) : α :=
  if lt x y then y else x

end Quantity

/-! ### Exact numbers -/

instance : Quantity Rat where
  ofNat n := (n : Rat)
  lt x y := decide (x < y)
  atMost x y := decide (x ≤ y)
  atMost_total x y := by simpa using Rat.le_total
  atMost_trans x y z := by simpa using Rat.le_trans
  atMost_antisymm x y := by simpa using Rat.le_antisymm
  emptySum := 0
  floor x := x.floor.toNat
  ceil x := x.ceil.toNat

/-! ### Binary64 numbers -/

namespace Binary64

/-- A bit pattern without its sign. -/
def magnitudeBits (pattern : UInt64) : Nat :=
  pattern.toNat % 0x8000000000000000

/-- Whether the sign bit is set. -/
def signBit (pattern : UInt64) : Bool :=
  0x8000000000000000 ≤ pattern.toNat

/-- Place of a bit pattern in the total order: patterns count up from positive zero, and down from
`-1` for negative zero. -/
def patternKey (pattern : UInt64) : Int :=
  if signBit pattern then -1 - (magnitudeBits pattern : Int) else (magnitudeBits pattern : Int)

/-- **No two bit patterns share a place**: the sign of the place is that of the pattern, and the
magnitude can be read off it. -/
theorem patternKey_inj {p q : UInt64} : patternKey p = patternKey q ↔ p = q := by
  refine ⟨fun h ↦ UInt64.toNat_inj.1 ?_, congrArg patternKey⟩
  have hp : p.toNat < UInt64.size := p.toNat_lt
  have hq : q.toNat < UInt64.size := q.toNat_lt
  simp only [patternKey, signBit, magnitudeBits, decide_eq_true_eq] at h
  rw [UInt64.size] at hp hq
  split at h <;> split at h <;> omega

/-- Place of a number in the total order. -/
def orderKey (x : Float) : Int :=
  patternKey x.toBits

/-- A number is determined by its bit pattern. -/
theorem toBits_inj {x y : Float} (h : x.toBits = y.toBits) : x = y := by
  obtain ⟨⟨p, hp⟩⟩ := x
  obtain ⟨⟨q, hq⟩⟩ := y
  obtain rfl : p = q := h
  rfl

theorem orderKey_inj {x y : Float} : orderKey x = orderKey y ↔ x = y :=
  patternKey_inj.trans ⟨toBits_inj, congrArg Float.toBits⟩

/-- Integral part of a number that is at least zero, `0` for any other and for NaN. -/
def wholePart (x : Float) : Nat :=
  x.toUInt64.toNat

end Binary64

/-- Sums start from `-0.0`, the number that changes no other number when added to it. -/
instance : Quantity Float where
  ofNat n := Float.ofNat n
  lt x y := decide (x < y)
  atMost x y := decide (Binary64.orderKey x ≤ Binary64.orderKey y)
  atMost_total x y := by simpa using Int.le_total _ _
  atMost_trans x y z := by simpa using Int.le_trans
  atMost_antisymm x y := by
    simp only [decide_eq_true_eq]
    exact fun h h' ↦ Binary64.orderKey_inj.1 (Int.le_antisymm h h')
  emptySum := -0.0
  floor := Binary64.wholePart
  ceil x :=
    let whole := Binary64.wholePart x
    if Float.ofNat whole < x then whole + 1 else whole

end LatencyCurve
