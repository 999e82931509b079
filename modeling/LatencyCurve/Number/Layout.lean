import LatencyCurve.Number.Decimal

/-!
# Layouts of numbers

How the digits of a binary64 number are written, in the three layouts that texts of this library
use:

* `plainText` has as few digits as read back, never an exponent, and no fraction for a whole number;
* `dataText` has as few digits as read back, always a fraction or an exponent, and takes an exponent
  outside `1e-5 … 1e16`;
* `fixedText` has a given number of places.
-/

namespace LatencyCurve

/-- The digits as text, with the leading zeros that fill up the count. -/
def Digits.text (d : Digits) : List Char :=
  let ds := Nat.toDigits 10 d.value
  List.replicate (d.count - ds.length) '0' ++ ds

/-- Digits without the zeros at their end. -/
def Digits.significant (d : Digits) : List Char :=
  (d.text.reverse.dropWhile (· = '0')).reverse

/-- The sign of a negative number. -/
def signText (negative : Bool) : List Char :=
  if negative then ['-'] else []

/-- Digits around a decimal point, written out to the units: whole part and fraction. -/
def positional (digits : List Char) (point : Int) : List Char × List Char :=
  if point ≤ 0 then (['0'], List.replicate (-point).toNat '0' ++ digits)
  else
    let whole := point.toNat
    (digits.take whole ++ List.replicate (whole - digits.length) '0', digits.drop whole)

/-- A number with as few digits as read back and no exponent: `0.1`, `1500`, `0.0000001`. -/
def plainText (x : Float) : String :=
  String.ofList <|
    match Reading.ofFloat x with
    | .nan => ['N', 'a', 'N']
    | .infinite negative => signText negative ++ ['i', 'n', 'f']
    | .finite negative 0 _ => signText negative ++ ['0']
    | .finite negative significand exponent =>
      let d := shortest .up significand exponent
      let (whole, fraction) := positional d.significant d.point
      signText negative ++ whole ++ (if fraction = [] then [] else '.' :: fraction)

/-- A finite number as data: `0.1`, `1500.0`, `1e-7`, `1.5e+300`. -/
def finiteDataText (negative : Bool) (significand : Nat) (exponent : Int) : List Char :=
  if significand = 0 then signText negative ++ ['0', '.', '0']
  else
    let d := shortest .toEven significand exponent
    let digits := d.significant
    let power := d.point - 1
    if -5 ≤ power && power ≤ 15 then
      let (whole, fraction) := positional digits d.point
      signText negative ++ whole ++ '.' :: (if fraction = [] then ['0'] else fraction)
    else
      let mantissa := digits.take 1 ++ (if digits.length ≤ 1 then [] else '.' :: digits.drop 1)
      let sign := if power < 0 then '-' else '+'
      signText negative ++ mantissa ++ 'e' :: sign :: Nat.toDigits 10 power.natAbs

/-- A number as data, if it is finite. -/
def dataText? (x : Float) : Option String :=
  match Reading.ofFloat x with
  | .finite negative significand exponent =>
    some (String.ofList (finiteDataText negative significand exponent))
  | _ => none

/-- A number with a given number of places, rounded from its exact value, halves to even. -/
def fixedText (places : Nat) (x : Float) : String :=
  String.ofList <|
    match Reading.ofFloat x with
    | .nan => ['N', 'a', 'N']
    | .infinite negative => signText negative ++ ['i', 'n', 'f']
    | .finite negative significand exponent =>
      let r := (Ratio.dyadic significand exponent).scale places
      let units := Nat.toDigits 10 (roundDiv .toEven r.num r.den)
      let digits := List.replicate (places + 1 - units.length) '0' ++ units
      let whole := digits.length - places
      signText negative ++ digits.take whole ++
        (if places = 0 then [] else '.' :: digits.drop whole)

/-- Whether a number is finite and has no fraction. -/
def isWhole (x : Float) : Bool :=
  match Reading.ofFloat x with
  | .finite _ significand exponent =>
    let r := Ratio.dyadic significand exponent
    r.num % r.den == 0
  | _ => false

end LatencyCurve
