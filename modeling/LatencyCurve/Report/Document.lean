import LatencyCurve.Json.Writer
import LatencyCurve.Report.Basic

/-!
# Reports as JSON

The layout for other programs: a report is one JSON document, a message is one object on a line.
-/

namespace LatencyCurve

/-- A summary as JSON. -/
def Summary.toJson (s : Summary Float) : Json :=
  .obj [("count", .nat s.count), ("min_ms", .float s.min), ("max_ms", .float s.max),
    ("mean_ms", .float s.mean), ("std_dev_ms", .float s.deviation),
    ("percentiles", .arr (s.percentiles.map fun p ↦
      .obj [("percentile", .float p.percent), ("latency_ms", .float p.latency)]))]

/-- A report as JSON. -/
def Report.toJson (r : Report) : Json :=
  .obj [("input_path", .str r.input), ("output_path", .str r.output),
    ("lines_read", .nat r.linesRead), ("skipped_lines", .nat r.skippedLines),
    ("took_matches", .nat r.tookMatches), ("suffix_matches", .nat r.suffixMatches),
    ("summary", r.summary.toJson)]

/-- A series as JSON. -/
def Series.toJson (s : Series Float) : Json :=
  .obj [("measurements", .arr (s.measurements.map fun m ↦
    .obj [("latency_ms", .float m.latency), ("line_number", .nat m.line),
      ("pattern", .str m.pattern.tag)]))]

namespace Document

/-- A report, over lines or on one. -/
def summary (pretty : Bool) (r : Report) : String :=
  if pretty then r.toJson.pretty else r.toJson.compact

/-- A message of some level. -/
def message (level text : String) : String :=
  (Json.obj [("level", .str level), ("message", .str text)]).compact

end Document

end LatencyCurve
