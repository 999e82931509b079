import LatencyCurve.Disk.Path

/-!
# Outcome of drawing a chart
-/

namespace LatencyCurve

/-- What has been drawn. -/
structure ChartOutcome where
  /-- The image that was written -/
  output : Path
  /-- The font of its text; without one the chart has no text -/
  font : Option Path
  /-- What was wrong with the font -/
  fontWarning : Option String
deriving DecidableEq, Repr

/-- Whether the chart has text. -/
def ChartOutcome.labelsDrawn (o : ChartOutcome) : Bool :=
  o.font.isSome

end LatencyCurve
