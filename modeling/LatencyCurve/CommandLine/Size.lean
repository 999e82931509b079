import LatencyCurve.Config.Basic
import LatencyCurve.Log.Recognizer

/-!
# Sizes on the command line

The width or height of an image as it is given on the command line: a run of ASCII digits, with any
number of zeros in front, whose value fits 32 bits and is an allowed size.
-/

namespace LatencyCurve

/-- Reads a width or height in pixels, or says what is wrong with it. -/
def readSize (s : String) : Except String Nat :=
  match readDecimal UInt32.size s.toList with
  | none => .error ("Invalid pixel size: " ++ s)
  | some n =>
    if n < Config.leastSize then
      .error ("Pixel size must be at least " ++ toString Config.leastSize)
    else if Config.largestSize < n then
      .error ("Pixel size cannot exceed " ++ toString Config.largestSize)
    else .ok n

end LatencyCurve
