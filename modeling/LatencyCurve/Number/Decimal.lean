import LatencyCurve.Number.Quantity

/-!
# Decimal forms of binary64 numbers

A finite binary64 number is `significand * 2 ^ exponent`, exactly. This module finds decimal digits
for it, in exact natural-number arithmetic, in two ways:

* `shortest`, the fewest digits that read back as the same number, and of these the nearest to it;
* `roundDiv`, with which a fixed number of places is rounded, a half going to the even neighbour.

How digits are laid out as a text is left to `LatencyCurve.Number.Layout`.
-/

namespace LatencyCurve

/-! ### Taking a number apart -/

/-- What a binary64 number is. -/
inductive Reading where
  /-- Not a number -/
  | nan
  /-- An infinity -/
  | infinite (negative : Bool)
  /-- The number `± significand * 2 ^ exponent` -/
  | finite (negative : Bool) (significand : Nat) (exponent : Int)
deriving DecidableEq, Repr

/-- The bit of a significand above the fraction. -/
def leadingBit : Nat := 0x10000000000000

/-- Takes a binary64 number apart: eleven bits of exponent above fifty-two of fraction. -/
def Reading.ofFloat (x : Float) : Reading :=
  let bits := Binary64.magnitudeBits x.toBits
  let negative := Binary64.signBit x.toBits
  let biased : Nat := bits / leadingBit
  let fraction : Nat := bits % leadingBit
  if biased = 2047 then
    if fraction = 0 then .infinite negative else .nan
  else if biased = 0 then .finite negative fraction (-1074)
  else .finite negative (leadingBit + fraction) ((biased : Int) - 1075)

/-- A positive fraction of natural numbers. -/
structure Ratio where
  /-- Numerator -/
  num : Nat
  /-- Denominator -/
  den : Nat
deriving DecidableEq, Repr

/-- The number `n * 2 ^ e`. -/
def Ratio.dyadic (n : Nat) (e : Int) : Ratio :=
  ⟨n <<< e.toNat, 1 <<< (-e).toNat⟩

/-- The number `r * 10 ^ e`. -/
def Ratio.scale (r : Ratio) (e : Int) : Ratio :=
  ⟨r.num * Nat.pow 10 e.toNat, r.den * Nat.pow 10 (-e).toNat⟩

/-! ### Rounding a quotient -/

/-- Where a value goes that lies half way between its neighbours. -/
inductive Tie where
  /-- To the even neighbour -/
  | toEven
  /-- To the upper neighbour -/
  | up
deriving DecidableEq, Repr

/-- The whole number nearest to `num / den`. -/
def roundDiv (tie : Tie) (num den : Nat) : Nat :=
  let below := num / den
  let rest := 2 * (num % den)
  if rest < den then below
  else if rest > den then below + 1
  else
    match tie with
    | .toEven => if below % 2 = 0 then below else below + 1
    | .up => below + 1

/-! ### Shortest digits -/

/-- The decimal number `0.d₁d₂… * 10 ^ point`, with the digits `d₁d₂…` read as one whole number. -/
structure Digits where
  /-- The digits as a whole number -/
  value : Nat
  /-- How many digits there are, leading zeros included -/
  count : Nat
  /-- Where the decimal point stands, counted from the first digit -/
  point : Int
deriving DecidableEq, Repr

/-- The least number of places, at most `fuel`, by which a ratio has to be shifted to reach one. -/
def placesToOne (num den : Nat) : Nat → Nat
  | 0 => 0
  | fuel + 1 => if den ≤ num then 0 else 1 + placesToOne (10 * num) den fuel

/-- The exponent `p` with `10 ^ (p - 1) ≤ r < 10 ^ p`. -/
def Ratio.pointOf (r : Ratio) : Int :=
  if r.den ≤ r.num then ((Nat.toDigits 10 (r.num / r.den)).length : Int)
  else 1 - (placesToOne r.num r.den 400 : Int)

/-- The numbers that round to one binary64 number: everything from `low` to `high`, all of them over
one denominator, the two ends included only if the significand is even. -/
structure RoundingRange where
  /-- Numerator of the lower end -/
  low : Nat
  /-- Numerator of the number itself -/
  value : Nat
  /-- Numerator of the upper end -/
  high : Nat
  /-- The common denominator -/
  den : Nat
  /-- Whether the ends belong to the range -/
  closed : Bool

/-- The range of a positive binary64 number. Below a power of two the neighbours are half as far. -/
def RoundingRange.of (significand : Nat) (exponent : Int) : RoundingRange :=
  let below := if significand = leadingBit && -1074 < exponent then 1 else 2
  let unit := Ratio.dyadic 1 (exponent - 2)
  ⟨(4 * significand - below) * unit.num, 4 * significand * unit.num,
    (4 * significand + 2) * unit.num, unit.den, significand % 2 = 0⟩

/-- Whether the decimal number `n * 10 ^ e` belongs to a range. -/
def RoundingRange.holds (range : RoundingRange) (n : Nat) (e : Int) : Bool :=
  let point := (Ratio.mk n 1).scale e
  let there := point.num * range.den
  if range.closed then range.low * point.den ≤ there && there ≤ range.high * point.den
  else range.low * point.den < there && there < range.high * point.den

/-- The digits with `count` places that lie in the range and are nearest to its number. The only
candidates are the two neighbours of the number on the grid of that many digits. -/
def RoundingRange.digitsOf? (tie : Tie) (range : RoundingRange) (point : Int) (count : Nat) :
    Option Digits :=
  let grid := point - count
  let scaled := (Ratio.mk range.value range.den).scale (-grid)
  let nearest := roundDiv tie scaled.num scaled.den
  let below := scaled.num / scaled.den
  let other := if nearest = below then below + 1 else below
  if range.holds nearest grid then some ⟨nearest, count, point⟩
  else if range.holds other grid then some ⟨other, count, point⟩
  else none

/-- The fewest digits that lie in the range, trying `count` digits and then up to `more` further
ones. -/
def RoundingRange.shortestFrom (tie : Tie) (range : RoundingRange) (point : Int) (count : Nat) :
    Nat → Digits
  | 0 => ⟨0, count, point⟩
  | more + 1 =>
    match range.digitsOf? tie point count with
    | some digits => digits
    | none => range.shortestFrom tie point (count + 1) more

/-- A whole number with one digit too many, such as `10` with one digit, stands for the next power
of ten. -/
def Digits.normal (d : Digits) : Digits :=
  if d.value = Nat.pow 10 d.count then ⟨Nat.pow 10 (d.count - 1), d.count, d.point + 1⟩ else d

/-- The fewest digits that read back as `significand * 2 ^ exponent`, which is not zero. Seventeen
are always enough. -/
def shortest (tie : Tie) (significand : Nat) (exponent : Int) : Digits :=
  let range := RoundingRange.of significand exponent
  let point := (Ratio.mk range.value range.den).pointOf
  (range.shortestFrom tie point 1 17).normal

end LatencyCurve
