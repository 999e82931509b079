import LatencyCurve.Report.Basic
import LatencyCurve.Report.Table

/-!
# The colored layout

Reports and messages for terminals. Every value is padded first and colored afterwards, by how good
the latency is, so colors change no column.
-/

namespace LatencyCurve

/-! ### How good a latency is -/

/-- Classes of latencies, from the best. -/
inductive Grade where
  /-- Below one millisecond -/
  | excellent
  /-- Below ten milliseconds -/
  | good
  /-- Below a hundred milliseconds -/
  | fair
  /-- Below a second -/
  | poor
  /-- A second and more -/
  | veryPoor
deriving DecidableEq, Repr

namespace Grade

/-- The class of a latency in milliseconds. What is not a number is in the last class. -/
def ofLatency (x : Float) : Grade :=
  if x < 1 then excellent
  else if x < 10 then good
  else if x < 100 then fair
  else if x < 1000 then poor
  else veryPoor

/-- The color of a class. -/
def color : Grade → Color
  | excellent => .green
  | good => .cyan
  | fair => .yellow
  | poor => .magenta
  | veryPoor => .red

/-- The name of a class. -/
def description : Grade → String
  | excellent => "Excellent"
  | good => "Good"
  | fair => "Fair"
  | poor => "Poor"
  | veryPoor => "Very Poor"

end Grade

/-! ### Color schemes -/

/-- The colors of the parts of a report. -/
structure Scheme where
  /-- Rules around titles -/
  header : Color
  /-- Marks of success -/
  success : Color
  /-- Marks of warnings -/
  warning : Color
  /-- Marks of errors -/
  error : Color
  /-- Labels and rules that should not stand out -/
  muted : Color
deriving DecidableEq, Repr

/-- The usual colors. -/
def Scheme.standard : Scheme := ⟨.blue, .green, .yellow, .red, .brightBlack⟩

namespace Colored

/-- A title between two rules. -/
def header (o : Formatting) (scheme : Scheme) (title : String) : Styled :=
  let border := Span.styledIf o.useColor (.colored scheme.header) (repeated '═' (title.length + 4))
  [border, "\n  ", .styledIf o.useColor .inBold title, "  \n", border]

/-- A line about the source of the data. -/
def sourceLine (o : Formatting) (scheme : Scheme) (l : String × String) : Styled :=
  [.styledIf o.useColor (.colored scheme.muted) l.1, .ofString (":" ++ l.2 ++ "\n")]

/-- Width of the column of names. -/
def nameWidth (rows : List (String × Float)) : Nat :=
  Table.widest (statisticHeader :: rows.map (·.1))

/-- Width of the column of values. -/
def valueWidth (o : Formatting) (rows : List (String × Float)) : Nat :=
  Table.widest (latencyHeader :: rows.map fun r ↦ o.millis r.2)

/-- The line with the names of the columns. -/
def headerRow (o : Formatting) (names values : Nat) : Styled :=
  ["  ", .styledIf o.useColor .inBold (pad .left names statisticHeader), "  ",
    .styledIf o.useColor .inBold (pad .right values latencyHeader)]

/-- The line under the names of the columns. -/
def ruleRow (o : Formatting) (scheme : Scheme) (names values : Nat) : Styled :=
  ["  ", .styledIf o.useColor (.colored scheme.muted) (repeated '─' (names + values + 2))]

/-- The line of one statistic. -/
def valueRow (o : Formatting) (names values : Nat) (row : String × Float) : Styled :=
  [.ofString ("  " ++ pad .left names row.1 ++ "  "),
    .styledIf o.useColor (.colored (Grade.ofLatency row.2).color)
      (pad .right values (o.millis row.2))]

/-- The lines of the statistics. -/
def tableLines (o : Formatting) (scheme : Scheme) (r : Report) : List Styled :=
  let rows := r.rows o.verbose
  let names := nameWidth rows
  let values := valueWidth o rows
  headerRow o names values :: ruleRow o scheme names values :: rows.map (valueRow o names values)

/-- A report. -/
def summary (o : Formatting) (scheme : Scheme) (r : Report) : Styled :=
  let newLine : Styled := ["\n"]
  header o scheme summaryTitle ++ newLine ++
    (r.sourceLines o.verbose).flatMap (sourceLine o scheme) ++ newLine ++
    .lines (tableLines o scheme r)

/-- A message with a mark in front of it. -/
def marked (o : Formatting) (style : Style) (mark message : String) : Styled :=
  [.styledIf o.useColor style mark, .ofString (" " ++ message)]

/-- An error message. -/
def error (o : Formatting) (scheme : Scheme) (message : String) : Styled :=
  marked o (.boldColored scheme.error) "✗ Error:" message

/-- A warning. -/
def warning (o : Formatting) (scheme : Scheme) (message : String) : Styled :=
  marked o (.boldColored scheme.warning) "⚠ Warning:" message

/-- A message of success. -/
def success (o : Formatting) (scheme : Scheme) (message : String) : Styled :=
  marked o (.colored scheme.success) "✓" message

end Colored

end LatencyCurve
