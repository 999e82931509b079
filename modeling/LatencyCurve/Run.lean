import LatencyCurve.Chart.Render
import LatencyCurve.Config.Check
import LatencyCurve.Journal.Events
import LatencyCurve.Journal.Timers
import LatencyCurve.CommandLine.Help

/-!
# Runs

A run checks its configuration, extracts the latencies of the log, computes their curve and summary
and draws the chart. It is a function: from a file system, a font registry and a configuration to
the result, what the file system and the registry are then, and everything that was said on the way.

## Shape decisions

* **The steps come first, the journal afterwards.** `execute` says what happened and lists the
  entries about it, as its loggers made them. What the session adds to them is added by `App.run`,
  and whether they are written is decided last, by their level (`Event.lines`). So neither the
  session nor a threshold can change what happens.
* **What cannot be a function is given.** Ids, laps and the description of the build are parameters
  (`Circumstances`).
* **The run is one operation.** Every entry between its start and its end carries its id.
-/

namespace LatencyCurve

/-! ### What a run is given and leaves -/

/-- What differs between two runs of the same configuration. -/
structure Circumstances where
  /-- The id of the operation -/
  operation : String
  /-- How long each phase takes -/
  lap : String → Lap
  /-- What the program was built from -/
  build : String

/-- What a run can change. -/
structure World where
  /-- The file system -/
  disk : Disk
  /-- The font of the process -/
  registry : Font.Registry

/-- What a successful run has found and made. -/
structure RunReport where
  /-- Notices about the configuration -/
  notices : List Notice
  /-- What was extracted -/
  extraction : Extraction Float
  /-- The statistics -/
  summary : Summary Float
  /-- What was drawn -/
  chart : ChartOutcome

/-- The loggers of a run, by component. -/
inductive Source where
  /-- The run itself -/
  | app
  /-- Its phases -/
  | performance
  /-- Its failures -/
  | failures
deriving DecidableEq, Repr

/-- The name of a component. -/
def Source.component : Source → String
  | app => "APP"
  | performance => "PERF"
  | failures => "ERR"

/-- The logger of a component. -/
def Source.logger (c : Config) (s : Source) : Logger :=
  .ofConfig s.component c

/-- Something said by a run. -/
inductive Remark where
  /-- A notice about the configuration -/
  | notice (n : Notice)
  /-- An entry of the journal, as its logger made it -/
  | entry (source : Source) (e : Entry)

/-- What came of the steps of a run. -/
structure Execution where
  /-- What was found and made, or why not -/
  result : Except Fault RunReport
  /-- What the run can change, afterwards -/
  world : World
  /-- The timers afterwards -/
  timers : Timers
  /-- What was said, in order -/
  remarks : List Remark

namespace Run

/-! ### The steps -/

/-- The phase of reading and extracting. -/
def extractPhase : String := "extract"

/-- The phase of computing the curve and the summary. -/
def curvePhase : String := "cdf"

/-- The phase of drawing. -/
def drawPhase : String := "render"

/-- Reads a log and extracts its latencies. -/
def readLog (d : Disk) (recognizers : List Pattern) (input : Path) :
    Except Fault (Extraction Float) :=
  match d.read input with
  | .ok bytes => .ok (.ofBytes recognizers bytes.data.toList)
  | .error e =>
    .error ((Fault.ofFile e.text).within ("Cannot read input log '" ++ input.text ++ "'"))

/-- The log has no latencies. -/
def noLatencies (input : Path) (x : Extraction Float) : Fault :=
  ⟨.empty, "no latency found in '" ++ input.text ++ "' (" ++ toString x.linesRead ++
    " lines read, none matched 'took <N> us' or ';<N>')"⟩

/-- The extraction of a log, if it has any latencies. -/
def requireLatencies (input : Path) (x : Extraction Float) : Except Fault (Extraction Float) :=
  if x.series.isEmpty then .error (noLatencies input x) else .ok x

/-- The curve and the summary of a series. -/
def analyse (s : Series Float) : Except Fault (List (CurvePoint Float Float) × Summary Float) :=
  let curve? : Except Fault (List (CurvePoint Float Float)) := s.curve
  match curve?, Summary.ofSeries s with
  | .error f, _ => .error f
  | .ok _, .error f => .error f
  | .ok curve, .ok summary => .ok (curve, summary)

/-! ### What is said about the steps -/

/-- The place in the program at which the configuration is reported. -/
def site : CallSite := ⟨"LatencyCurve/Run.lean", 142, some "LatencyCurve.Run"⟩

/-- The name and version of the program. -/
def versionRemark (k : Circumstances) : Remark :=
  .entry .app <| Entry.withSite
    (.of .info Source.app.component ("latency-cdf v" ++ versionText ++ " (" ++ k.build ++ ")")) site

/-- The configuration, for debugging. -/
def configRemarks (c : Config) : List Remark :=
  (linesOf (String.intercalate "\n" c.describe).toList).map fun l ↦
    .entry .app <| Entry.withSite
      (.of .debug Source.app.component ("config " ++ String.ofList l)) site

/-- What is said before the first phase. -/
def opening (k : Circumstances) (c : Config) (notices : List Notice) : List Remark :=
  versionRemark k :: notices.map .notice ++ configRemarks c

/-- A phase starts. -/
def phaseStarted (c : Config) (phase : String) : Remark :=
  .entry .performance (Timers.startEntry (Source.performance.logger c) phase)

/-- A phase has ended. -/
def phaseEnded (k : Circumstances) (c : Config) (t : Timers) (phase : String) : Remark :=
  .entry .performance (t.finishEntry (Source.performance.logger c) phase (k.lap phase))

/-- What is said about an extraction. -/
def extractedRemark (c : Config) (x : Extraction Float) : Remark :=
  .entry .performance (Events.extracted (Source.performance.logger c) x)

/-- What is said about a chart. -/
def drawnRemarks (c : Config) (o : ChartOutcome) : List Remark :=
  .entry .performance (Events.drawn (Source.performance.logger c) o) ::
    match o.fontWarning with
    | none => []
    | some reason =>
      [.entry .failures (Events.reduced (Source.failures.logger c) "font" reason none)]

/-! ### All steps -/

/-- Draws the chart of an extraction. -/
def finishRun (k : Circumstances) (w : World) (c : Config) (t : Timers) (said : List Remark)
    (notices : List Notice) (x : Extraction Float) (curve : List (CurvePoint Float Float))
    (summary : Summary Float) : Execution :=
  let t := t.start drawPhase
  let said := said ++ [phaseStarted c drawPhase]
  let drawing := Chart.render w.disk w.registry (.ofConfig c) curve c.resolvedOutput
  let w' : World := ⟨drawing.disk, drawing.registry⟩
  match drawing.result with
  | .error f => ⟨.error f, w', t, said⟩
  | .ok chart =>
    ⟨.ok ⟨notices, x, summary, chart⟩, w', t.finish drawPhase,
      said ++ phaseEnded k c t drawPhase :: drawnRemarks c chart⟩

/-- Analyses an extraction and goes on. -/
def analyseRun (k : Circumstances) (w : World) (c : Config) (t : Timers) (said : List Remark)
    (notices : List Notice) (x : Extraction Float) : Execution :=
  match requireLatencies c.input x with
  | .error f => ⟨.error f, w, t, said⟩
  | .ok x =>
    let t := t.start curvePhase
    let said := said ++ [phaseStarted c curvePhase]
    match analyse x.series with
    | .error f => ⟨.error f, w, t, said⟩
    | .ok (curve, summary) =>
      finishRun k w c (t.finish curvePhase) (said ++ [phaseEnded k c t curvePhase]) notices x curve
        summary

/-- Takes all steps of a run. -/
def execute (k : Circumstances) (w : World) (t : Timers) (c : Config) : Execution :=
  match c.check w.disk with
  | .error f => ⟨.error f, w, t, [versionRemark k]⟩
  | .ok notices =>
    let t := t.start extractPhase
    let said := opening k c notices ++ [phaseStarted c extractPhase]
    match readLog w.disk Pattern.standardOrder c.input with
    | .error f => ⟨.error f, w, t, said⟩
    | .ok x =>
      analyseRun k w c (t.finish extractPhase)
        (said ++ [phaseEnded k c t extractPhase, extractedRemark c x]) notices x

end Run

/-! ### The application -/

/-- Something said by a run, with everything that the session adds to it. -/
inductive Event where
  /-- A notice about the configuration -/
  | notice (n : Notice)
  /-- A complete entry of the journal, and its logger -/
  | entry (l : Logger) (e : Entry)

namespace Event

/-- What is printed for an event: nothing for an entry below its logger's threshold. -/
def text? (escapes useColor : Bool) (stamp : Stamp) : Event → Option String
  | .notice n => some ((n.render useColor).render escapes)
  | .entry l e => l.line? stamp e

/-- The lines that are printed for some events. -/
def lines (escapes useColor : Bool) (stamp : Stamp) (events : List Event) : List String :=
  (events.filterMap (text? escapes useColor stamp)).flatMap fun s ↦
    (linesOf (s.toList ++ ['\n'])).map String.ofList

end Event

/-- A configuration together with the state that its runs share. -/
structure App where
  /-- The configuration -/
  config : Config
  /-- What the loggers share -/
  session : Session
  /-- The timers -/
  timers : Timers

/-- What a run of an application leads to. -/
structure RunOutcome where
  /-- What was found and made, or why not -/
  result : Except Fault RunReport
  /-- What the run can change, afterwards -/
  world : World
  /-- The application afterwards -/
  app : App
  /-- Everything that was said, in order -/
  events : List Event

namespace App

/-- The application for a configuration: every entry names the input. -/
def ofConfig (c : Config) (sessionId : String) : App where
  config := c
  session := ((Session.withId sessionId).perform (Source.app.logger c)
    (.addContext "input" (.str c.input.text))).1
  timers := .none

/-- The name of the operation that a run is. -/
def operationName : String := "plot"

/-- A remark with what the session adds to it. -/
def eventOf (c : Config) (s : Session) : Remark → Event
  | .notice n => .notice n
  | .entry source e => .entry (source.logger c) (s.complete (source.logger c) e)

/-- The event that an entry makes. -/
def entryEvent (l : Logger) (e : Option Entry) : List Event :=
  (e.map (.entry l)).toList

/-- What is said about the failure of a run, before its end. -/
def failureRemarks (c : Config) (operation : String) (result : Except Fault RunReport) :
    List Remark :=
  match result with
  | .ok _ => []
  | .error f =>
    [.entry .failures (Events.failed (Source.failures.logger c) f (some "Plotting failed")
      (some operation))]

/-- Whether a result is a success. -/
def succeeded (result : Except Fault RunReport) : Bool :=
  match result with
  | .ok _ => true
  | .error _ => false

/-- Runs an application. -/
def run (a : App) (k : Circumstances) (w : World) : RunOutcome :=
  let l := Source.app.logger a.config
  let (s, started) := a.session.perform l (.start k.operation operationName)
  let x := Run.execute k w a.timers a.config
  let remarks := x.remarks ++ failureRemarks a.config k.operation x.result
  let (s', finished) := s.perform l (.finish k.operation operationName (succeeded x.result))
  { result := x.result
    world := x.world
    app := { a with session := s', timers := x.timers }
    events := entryEvent l started ++ remarks.map (eventOf a.config s) ++ entryEvent l finished }

/-- The summary of a run in the format that the configuration asks for. -/
def formatSummary (c : Config) (r : RunReport) : Styled :=
  (Formatter.ofFormat c.summaryFormat c.useColor c.verbose).summary
    (.ofExtraction c.input.text r.chart.output.text r.extraction r.summary)

/-- What a run prints to its standard output. -/
def printed (escapes : Bool) (c : Config) (result : Except Fault RunReport) : String :=
  match result with
  | .ok r => if c.showSummary then (formatSummary c r).render escapes ++ "\n" else ""
  | .error _ => ""

end App

end LatencyCurve
