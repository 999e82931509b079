import LatencyCurve.Chart.Outcome
import LatencyCurve.Journal.Session

/-!
# What the journal tells about a run

The entries about the steps of a run: what was extracted, what was drawn, what failed, and what was
only done in a reduced form.
-/

namespace LatencyCurve.Events

/-- An extraction is done. -/
def extracted (l : Logger) (x : Extraction Float) : Entry :=
  (l.entry .info ("extracted " ++ toString x.series.length ++ " latencies from " ++
      toString x.linesRead ++ " lines (" ++ fixedText 1 x.matchRate ++ "% matched)"))
    |>.withExtraction x

/-- A chart has been written. -/
def drawn (l : Logger) (o : ChartOutcome) : Entry :=
  (l.entry .info ("plot written to " ++ o.output.text))
    |>.withField "output" (.str o.output.text)
    |>.withField "labels_drawn" (.bool o.labelsDrawn)
    |>.withField "font" (.optStr (o.font.map (·.text)))

/-- Something has failed, in some step, as part of some operation. -/
def failed (l : Logger) (f : Fault) (step correlation : Option String) : Entry :=
  let message :=
    match step with
    | some s => s ++ ": " ++ f.text
    | none => f.text
  ((l.entry .error message).withFault f).withCorrelation? correlation

/-- A component has done its work in a reduced form. -/
def reduced (l : Logger) (component reason : String) (correlation : Option String) : Entry :=
  ((l.entry .warn (component ++ ": " ++ reason)).withField "fallback" (.str component))
    |>.withCorrelation? correlation

end LatencyCurve.Events
