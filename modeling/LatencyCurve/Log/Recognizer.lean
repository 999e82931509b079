import LatencyCurve.Text.Blank

/-!
# Recognizing a latency in a log line

A benchmark log states a latency in one of two ways, always as a whole number of microseconds:

* in prose, `… took <N> us …`;
* as the last field of a record, `…;<N>`.

Each form has a recognizer, a function from the line to the number it states, if it states one. The
number is a run of ASCII digits, of any length and with any number of leading zeros; a value of
`2 ^ 64` or more is no latency. What an extraction needs of a recognizer is the class
`LineRecognizer`, of which the two forms are an instance.

## Where the prose form looks

Only the text after the *first* `took` counts. It has to go on with blanks, the digits, blanks and
`us`, each run non-empty; whatever follows the `us` is ignored. So a later `took` never makes up for
a first one that does not fit.
-/

namespace LatencyCurve

/-! ### Decimal numbers below a limit -/

/-- Value of an ASCII digit. -/
def digitValue (c : Char) : Nat :=
  c.toNat - '0'.toNat

/-- Reads on, one digit further; nothing is left of a number that has reached the limit. -/
def readDigit (limit : Nat) (acc : Option Nat) (c : Char) : Option Nat :=
  acc.bind fun n ↦
    let value := 10 * n + digitValue c
    if c.isDigit && value < limit then some value else none

/-- The value of a non-empty run of ASCII digits, if it is below the limit. -/
def readDecimal (limit : Nat) (s : List Char) : Option Nat :=
  if s = [] then none else s.foldl (readDigit limit) (some 0)

/-- Reads a count of microseconds, a number below `2 ^ 64`. -/
def readMicros (s : List Char) : Option Nat :=
  readDecimal UInt64.size s

/-! ### The two forms -/

/-- What follows the first occurrence of a marker. -/
def afterFirst (marker : List Char) : List Char → Option (List Char)
  | [] => if marker = [] then some [] else none
  | c :: s =>
    if marker.isPrefixOf (c :: s) then some ((c :: s).drop marker.length) else afterFirst marker s

/-- What follows the last occurrence of a character. -/
def afterLast (c : Char) (s : List Char) : Option (List Char) :=
  if c ∈ s then some (s.reverse.takeWhile (· != c)).reverse else none

/-- A non-empty run of characters of a class and the rest, if the text starts with one. -/
def leadingRun (p : Char → Bool) (s : List Char) : Option (List Char × List Char) :=
  match s.takeWhile p with
  | [] => none
  | run => some (run, s.dropWhile p)

/-- The number stated by `… took <N> us …`. -/
def recognizeTook (line : List Char) : Option Nat := do
  let afterTook ← afterFirst ['t', 'o', 'o', 'k'] line
  let (_, fromDigits) ← leadingRun isBlank afterTook
  let (digits, afterDigits) ← leadingRun Char.isDigit fromDigits
  let (_, unit) ← leadingRun isBlank afterDigits
  if ['u', 's'].isPrefixOf unit then readMicros digits else none

/-- The number stated by `…;<N>`. -/
def recognizeSuffix (line : List Char) : Option Nat :=
  (afterLast ';' line).bind readMicros

/-- The forms in which a line can state a latency. -/
inductive Pattern where
  /-- `… took <N> us …` -/
  | took
  /-- `…;<N>` at the end of the line -/
  | semicolonSuffix
deriving DecidableEq, Repr

namespace Pattern

/-- The name a pattern has in data. -/
def tag : Pattern → String
  | took => "took"
  | semicolonSuffix => "semicolon_suffix"

/-- The pattern a name in data stands for. -/
def ofTag? (s : String) : Option Pattern :=
  if s = took.tag then some took
  else if s = semicolonSuffix.tag then some semicolonSuffix
  else none

@[simp] theorem ofTag?_tag (p : Pattern) : ofTag? p.tag = some p := by
  cases p <;> decide

/-- The number of microseconds that a line states in this form. -/
def recognize : Pattern → List Char → Option Nat
  | took => recognizeTook
  | semicolonSuffix => recognizeSuffix

/-- The order in which lines are tried: a line that has both forms counts as prose. -/
def standardOrder : List Pattern :=
  [took, semicolonSuffix]

end Pattern

/-! ### Recognizers -/

/-- Ways to recognize latencies in lines. -/
class LineRecognizer (ρ : Type) where
  /-- The form that the measurements of a recognizer are counted under -/
  kind : ρ → Pattern
  /-- The number of microseconds that a line states, if it is accepted -/
  recognize : ρ → List Char → Option Nat

instance : LineRecognizer Pattern where
  kind := id
  recognize := Pattern.recognize

end LatencyCurve
