import LatencyCurve.Report.Basic
import LatencyCurve.Report.Table

/-!
# The plain layout

Reports and messages as plain text, for files and pipes: the statistics stand in a table, with
borders or without.
-/

namespace LatencyCurve.Plain

/-- A title between two rules. -/
def header (title : String) : String :=
  let border := repeated '=' (title.length + 4)
  border ++ "\n  " ++ title ++ "  \n" ++ border

/-- The table of statistics. -/
def table (o : Formatting) (r : Report) : Table where
  columns := [⟨statisticHeader, .left⟩, ⟨latencyHeader, .right⟩]
  rows := (r.rows o.verbose).map fun x ↦ [x.1, o.millis x.2]

/-- A report. -/
def summary (o : Formatting) (r : Report) : String :=
  header summaryTitle ++ "\n" ++
    String.join ((r.sourceLines o.verbose).map fun l ↦ l.1 ++ ":" ++ l.2 ++ "\n") ++ "\n" ++
    String.intercalate "\n" ((table o r).lines o.borders)

/-- An error message. -/
def error (message : String) : String := "Error: " ++ message

/-- A warning. -/
def warning (message : String) : String := "Warning: " ++ message

/-- A message of success. -/
def success (message : String) : String := message

end LatencyCurve.Plain
