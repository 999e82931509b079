import LatencyCurve.Log.Series
import LatencyCurve.Text.Lines
import LatencyCurve.Text.Utf8

/-!
# Extracting a series from a log

Every line is offered to an ordered list of recognizers, and the first that accepts it decides the
measurement. A line that none of them accepts is skipped; it still counts as read. No content of a
log is an error.
-/

namespace LatencyCurve

/-- What reading a log has yielded. -/
structure Extraction (α : Type) where
  /-- The measurements in file order -/
  series : Series α
  /-- How many lines the log has -/
  linesRead : Nat
deriving DecidableEq

variable {ρ α : Type} [LineRecognizer ρ] [Quantity α]

/-- The measurement of a line, by the first recognizer that accepts it. -/
def measureLine (recognizers : List ρ) (line : List Char) (number : Nat) :
    Option (Measurement α) :=
  recognizers.findSome? fun r ↦
    (LineRecognizer.recognize r line).map fun n ↦
      Measurement.ofMicros n number (LineRecognizer.kind r)

namespace Extraction

/-- Extracts from the lines of a log. -/
def ofLines (recognizers : List ρ) (lines : List (List Char)) : Extraction α where
  series := ⟨(lines.zipIdx 1).filterMap fun l ↦ measureLine recognizers l.1 l.2⟩
  linesRead := lines.length

/-- Extracts from a text. -/
def ofText (recognizers : List ρ) (text : List Char) : Extraction α :=
  ofLines recognizers (linesOf text)

/-- Extracts from the content of a file. -/
def ofBytes (recognizers : List ρ) (bytes : List UInt8) : Extraction α :=
  ofText recognizers (Utf8.decode bytes)

omit [Quantity α] in
/-- How many lines yielded no measurement. -/
def skippedLines (e : Extraction α) : Nat :=
  e.linesRead - e.series.length

/-- How many of a hundred lines yielded a measurement. -/
def matchRate {β : Type} [Quantity β] (e : Extraction α) : β :=
  if e.linesRead = 0 then Quantity.ofNat 0
  else Quantity.ofNat e.series.length / Quantity.ofNat e.linesRead * Quantity.ofNat 100

end Extraction

end LatencyCurve
