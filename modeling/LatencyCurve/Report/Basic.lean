import LatencyCurve.Log.Extraction
import LatencyCurve.Stats.Summary

/-!
# Summary reports

A summary report is what a run tells about its data: which log was read and which image written, how
many lines counted, and the statistics. Every layout shows the same rows of statistics
(`Report.rows`) and the same lines about the source (`Report.sourceLines`).
-/

namespace LatencyCurve

/-- What is told about the data of a run. -/
structure Report where
  /-- The log that was read -/
  input : String
  /-- The image that was written -/
  output : String
  /-- How many lines were read -/
  linesRead : Nat
  /-- How many lines yielded no measurement -/
  skippedLines : Nat
  /-- How many measurements come from prose -/
  tookMatches : Nat
  /-- How many measurements come from the ends of records -/
  suffixMatches : Nat
  /-- The statistics -/
  summary : Summary Float
deriving DecidableEq

namespace Report

/-- The report of an extraction and its summary. -/
def ofExtraction (input output : String) (e : Extraction Float) (summary : Summary Float) :
    Report where
  input := input
  output := output
  linesRead := e.linesRead
  skippedLines := e.skippedLines
  tookMatches := e.series.countFor .took
  suffixMatches := e.series.countFor .semicolonSuffix
  summary := summary

/-- The statistics that are shown, by name. -/
def rows (verbose : Bool) (r : Report) : List (String × Float) :=
  [("min", r.summary.min), ("mean", r.summary.mean)] ++
    r.summary.percentiles.map (fun p ↦ (percentileLabel p.percent, p.latency)) ++
    [("max", r.summary.max)] ++
    (if verbose then [("std dev", r.summary.deviation)] else [])

/-- Where the data comes from: labels and what is said about them. -/
def sourceLines (verbose : Bool) (r : Report) : List (String × String) :=
  [("Input", "        " ++ r.input),
    ("Plot", "         " ++ r.output),
    ("Measurements",
      " " ++ toString r.summary.count ++ " of " ++ toString r.linesRead ++ " lines")] ++
    (if verbose then
      [("  took <N> us", " " ++ toString r.tookMatches),
        ("  ;<N> suffix", " " ++ toString r.suffixMatches),
        ("  skipped", "     " ++ toString r.skippedLines)]
    else [])

end Report

/-! ### How a report is laid out -/

/-- What all layouts for readers have in common. -/
structure Formatting where
  /-- Whether colors are used -/
  useColor : Bool
  /-- Whether the details are shown -/
  verbose : Bool
  /-- Whether tables have borders -/
  borders : Bool
  /-- Places after the point of a number of milliseconds -/
  places : Nat
deriving DecidableEq, Repr

/-- Bordered tables, three places, colors and no details. -/
def Formatting.standard : Formatting := ⟨true, false, true, 3⟩

/-- A statistic as text. -/
def Formatting.millis (o : Formatting) (x : Float) : String :=
  fixedText o.places x

/-- The name of the column of statistics. -/
def statisticHeader : String := "Statistic"

/-- The name of the column of values. -/
def latencyHeader : String := "Latency (ms)"

/-- The heading over a summary. -/
def summaryTitle : String := "Latency Summary"

/-- A character, some number of times. -/
def repeated (c : Char) (n : Nat) : String :=
  String.ofList (List.replicate n c)

end LatencyCurve
