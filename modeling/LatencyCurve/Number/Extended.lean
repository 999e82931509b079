import LatencyCurve.Number.Quantity

/-!
# Exact numbers with infinities

A percentile can be asked for that no exact number is: an infinity, or what is not a number.
`Extended` has these beside the exact numbers. Its arithmetic is that of floating point numbers
without rounding: finite results are exact (`finite_add`, `finite_mul` and their like), and what has
no value, as the difference of two infinities or an infinity times zero, is not a number. Zero has
no sign here; a quotient by zero is taken as one by positive zero.

In the order that sorting uses, what is not a number comes last, and the numeric comparison is that
order on everything else.
-/

namespace LatencyCurve

/-- An exact number, an infinity, or what is not a number. -/
inductive Extended
  /-- An exact number -/
  | finite (x : Rat)
  /-- One of the two infinities -/
  | infinite (negative : Bool)
  /-- What is not a number -/
  | nan
deriving DecidableEq

namespace Extended

/-! ### Arithmetic -/

/-- Whether a number is below zero. -/
def isNegative : Extended → Bool
  | finite x => x < 0
  | infinite negative => negative
  | nan => false

/-- The number of the other sign. -/
def neg : Extended → Extended
  | finite x => finite (-x)
  | infinite negative => infinite !negative
  | nan => nan

/-- The number by which multiplying is dividing. -/
def inverse : Extended → Extended
  | finite x => if x = 0 then infinite false else finite x⁻¹
  | infinite _ => finite 0
  | nan => nan

/-- The sum: opposite infinities have none. -/
def add : Extended → Extended → Extended
  | finite x, finite y => finite (x + y)
  | nan, _ => nan
  | _, nan => nan
  | infinite s, infinite t => if s = t then infinite s else nan
  | infinite s, finite _ => infinite s
  | finite _, infinite t => infinite t

/-- The product: an infinity and zero have none. -/
def mul : Extended → Extended → Extended
  | finite x, finite y => finite (x * y)
  | nan, _ => nan
  | _, nan => nan
  | x, y =>
    if x = finite 0 ∨ y = finite 0 then nan else infinite (x.isNegative != y.isNegative)

/-! ### Order -/

/-- The kinds of numbers from the least to the greatest. -/
def band : Extended → Nat
  | infinite true => 0
  | finite _ => 1
  | infinite false => 2
  | nan => 3

/-- The order that sorting uses. -/
def atMost : Extended → Extended → Bool
  | finite x, finite y => x ≤ y
  | x, y => x.band ≤ y.band

/-- One number is at most another if its kind comes no later and, where both are finite, it is not
above it. -/
theorem atMost_iff {x y : Extended} :
    atMost x y = true ↔ x.band ≤ y.band ∧ ∀ a b, x = finite a → y = finite b → a ≤ b := by
  match x, y with
  | finite a, finite b => simp [atMost, band]
  | finite a, infinite t | finite a, nan | infinite s, y | nan, y => simp [atMost]

theorem exists_finite_of_band {x : Extended} (h : x.band = 1) : ∃ a, x = finite a := by
  match x with
  | finite a => exact ⟨a, rfl⟩
  | infinite true | infinite false | nan => cases h

theorem atMost_total (x y : Extended) : (atMost x y || atMost y x) = true := by
  match x, y with
  | finite a, finite b => simp [atMost, Rat.le_total]
  | finite a, infinite t | finite a, nan | infinite s, y | nan, y => simp [atMost, Nat.le_total]

theorem atMost_trans (x y z : Extended) (hxy : atMost x y = true) (hyz : atMost y z = true) :
    atMost x z = true := by
  obtain ⟨hxy, hfinite⟩ := atMost_iff.1 hxy
  obtain ⟨hyz, hfinite'⟩ := atMost_iff.1 hyz
  refine atMost_iff.2 ⟨Nat.le_trans hxy hyz, ?_⟩
  -- Between two finite numbers there are finite ones only.
  rintro a c rfl rfl
  obtain ⟨b, rfl⟩ := exists_finite_of_band (Nat.le_antisymm hyz hxy)
  exact Rat.le_trans (hfinite a b rfl rfl) (hfinite' b c rfl rfl)

theorem atMost_antisymm (x y : Extended) (hxy : atMost x y = true) (hyx : atMost y x = true) :
    x = y := by
  obtain ⟨hxy, hfinite⟩ := atMost_iff.1 hxy
  obtain ⟨hyx, hfinite'⟩ := atMost_iff.1 hyx
  have hband : x.band = y.band := Nat.le_antisymm hxy hyx
  match x, y with
  | finite a, finite b =>
    exact congrArg finite (Rat.le_antisymm (hfinite a b rfl rfl) (hfinite' b a rfl rfl))
  | infinite true, infinite true => rfl
  | infinite false, infinite false => rfl
  | nan, nan => rfl

end Extended

instance : Quantity Extended where
  add := Extended.add
  sub x y := x.add y.neg
  mul := Extended.mul
  div x y := x.mul y.inverse
  ofNat n := .finite n
  lt x y := x ≠ .nan && y ≠ .nan && !y.atMost x
  atMost := Extended.atMost
  atMost_total := Extended.atMost_total
  atMost_trans := Extended.atMost_trans
  atMost_antisymm := Extended.atMost_antisymm
  emptySum := .finite 0
  floor
    | .finite x => x.floor.toNat
    | _ => 0
  ceil
    | .finite x => x.ceil.toNat
    | _ => 0

namespace Extended

@[simp] theorem finite_add (x y : Rat) : finite x + finite y = finite (x + y) := rfl

@[simp] theorem finite_sub (x y : Rat) : finite x - finite y = finite (x - y) :=
  congrArg finite (Rat.sub_eq_add_neg x y).symm

@[simp] theorem finite_mul (x y : Rat) : finite x * finite y = finite (x * y) := rfl

theorem finite_div (x : Rat) {y : Rat} (hy : y ≠ 0) : finite x / finite y = finite (x / y) := by
  have hinverse : (finite y).inverse = finite y⁻¹ := if_neg hy
  calc finite x / finite y = (finite x).mul (finite y).inverse := rfl
    _ = finite (x * y⁻¹) := by rw [hinverse]; rfl
    _ = finite (x / y) := by rw [Rat.div_def]

end Extended

end LatencyCurve
