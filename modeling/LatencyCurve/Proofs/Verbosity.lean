import LatencyCurve.Proofs.Course
import LatencyCurve.Proofs.DeviationWidth

/-!
# What verbosity changes

Two runs are compared here whose configurations ask for the same work and differ in how much is to
be told about it. They may be runs at different times, with ids, timers and sessions of their own.

They do the same, and they say the same as far as it is at least progress: every course of the one
is a course of the other (`Run.Course.exists_sameWork`). For whatever depends on the verbosity or on
the time is said at a lower level. A threshold is applied last and to each entry alone, so the
quieter of the two journals is a part of the other (`Event.filter_written`).

A summary for readers may show details, which is no matter of the journal. What they add is looked
at in `Formatter.addsDetails_forReaders`, and `Report.deviationFits` says that the other lines stay
exactly as they are.
-/

namespace LatencyCurve

/-- Two configurations that differ in nothing but how much is told. -/
def Config.SameButVerbosity (c c' : Config) : Prop :=
  ∃ verbose debug, c' = { c with verbose := verbose, debug := debug }

/-! ### What is heard -/

/-- What an entry has to say in whatever run: who says it, how severe it is, and the message. -/
structure Gist where
  /-- Who says it -/
  component : String
  /-- How severe it is -/
  level : Level
  /-- The message -/
  message : String
deriving DecidableEq, Repr

namespace Entry

/-- The gist of an entry. -/
def gist (e : Entry) : Gist :=
  ⟨e.component, e.level, e.message⟩

/-- The gist of an entry that is at least progress. -/
def heard? (e : Entry) : Option (Notice ⊕ Gist) :=
  if e.level.reaches .info then some (.inr e.gist) else none

end Entry

/-- What is heard of a remark: a notice, or the gist of an entry that is at least progress. -/
def Remark.heard? : Remark → Option (Notice ⊕ Gist)
  | notice n => some (.inl n)
  | entry _ e => e.heard?

/-- What is heard of some remarks. -/
def heard (remarks : List Remark) : List (Notice ⊕ Gist) :=
  remarks.filterMap Remark.heard?

@[simp] theorem heard_append (rs rs' : List Remark) : heard (rs ++ rs') = heard rs ++ heard rs' :=
  List.filterMap_append

namespace Event

/-- What is heard of an event. -/
def heard? : Event → Option (Notice ⊕ Gist)
  | notice n => some (.inl n)
  | entry _ e => e.heard?

/-- The notice that an event is, if it is one. -/
def notice? : Event → Option Notice
  | notice n => some n
  | entry _ _ => none

/-- The gist of an event, if it is an entry that is written. -/
def written? : Event → Option Gist
  | notice _ => none
  | entry l e => if l.writes e.level then some e.gist else none

/-- The notices among some events. -/
def notices (events : List Event) : List Notice :=
  events.filterMap notice?

/-- The gists of the entries among some events that are written. -/
def written (events : List Event) : List Gist :=
  events.filterMap written?

/-- Notices are heard. -/
theorem notices_eq (events : List Event) :
    notices events = (events.filterMap heard?).filterMap Sum.getLeft? := by
  rw [notices, List.filterMap_filterMap]
  refine List.filterMap_congr fun e _ ↦ ?_
  cases e with
  | notice n => rfl
  | entry l e => cases h : e.level.reaches .info <;> simp [notice?, heard?, Entry.heard?, h]

/-- What is written from one level on, if it is at least progress, is what is heard and reaches that
level. -/
theorem filter_written {threshold : Level} {events : List Event}
    (h : ∀ l e, entry l e ∈ events → l.threshold = threshold) :
    (written events).filter (·.level.reaches .info) =
      ((events.filterMap heard?).filterMap Sum.getRight?).filter (·.level.reaches threshold) := by
  rw [written, List.filterMap_filterMap, ← List.filterMap_eq_filter, ← List.filterMap_eq_filter,
    List.filterMap_filterMap, List.filterMap_filterMap]
  refine List.filterMap_congr fun event hevent ↦ ?_
  cases event with
  | notice n => rfl
  | entry l e =>
    have hwrites : l.writes e.level = e.level.reaches threshold := by
      rw [Logger.writes, h l e hevent]
    cases hinfo : e.level.reaches .info <;> cases hthreshold : e.level.reaches threshold <;>
      simp [written?, heard?, Entry.heard?, Entry.gist, Option.guard, hwrites, hinfo, hthreshold]

end Event

namespace Run

section Said

variable (k : Circumstances) (t : Timers) (c : Config) (notices : List Notice)
  (x : Extraction Float)

/-- The configuration is told below progress, -/
theorem heard_configRemarks : heard (configRemarks c) = [] := by
  refine List.filterMap_eq_nil_iff.2 fun r hr ↦ ?_
  obtain ⟨line, -, rfl⟩ := List.mem_map.1 hr
  rfl

/-- and so are the start of a phase -/
theorem heard_phaseStarted (phase : String) : heard [phaseStarted c phase] = [] := rfl

/-- and the end of one that has been started. -/
theorem heard_phaseEnded_cons (phase : String) (rs : List Remark) :
    heard (phaseEnded k c (t.start phase) phase :: rs) = heard rs := by
  have hrunning : ((t.start phase).finish? phase).isSome = true := by
    have hmem : phase ∈ (t.start phase).running := by
      rw [Timers.start]
      split <;> simp [*]
    rw [Timers.finish?, if_pos hmem]
    rfl
  rw [phaseEnded, Timers.finishEntry, if_pos hrunning]
  rfl

theorem heard_saidToRead :
    heard (saidToRead k c notices) = heard (versionRemark k :: notices.map .notice) := by
  rw [saidToRead, opening, heard_append, heard_append, heard_configRemarks, heard_phaseStarted,
    List.append_nil, List.append_nil]

theorem heard_saidToAnalyse :
    heard (saidToAnalyse k t c notices x) =
      heard (versionRemark k :: notices.map .notice) ++ heard [extractedRemark c x] := by
  rw [saidToAnalyse, heard_append, heard_saidToRead, heard_phaseEnded_cons]

theorem heard_saidToDraw :
    heard (saidToDraw k t c notices x) =
      heard (versionRemark k :: notices.map .notice) ++ heard [extractedRemark c x] := by
  rw [saidToDraw, heard_append, heard_append, heard_append, heard_saidToAnalyse,
    heard_phaseStarted, heard_phaseStarted, heard_phaseEnded_cons]
  simp [heard]

theorem heard_saidToEnd (o : ChartOutcome) :
    heard (saidToEnd k t c notices x o) =
      heard (versionRemark k :: notices.map .notice) ++ heard [extractedRemark c x] ++
        heard (drawnRemarks c o) := by
  rw [saidToEnd, heard_append, heard_saidToDraw, timersToDraw, heard_phaseEnded_cons]

end Said

/-- Two executions that have done the same and of which the same is heard. -/
structure SameWork (x x' : Execution) : Prop where
  /-- The results are the same. -/
  result_eq : x.result = x'.result
  /-- What is left is the same. -/
  world_eq : x.world = x'.world
  /-- The same is heard. -/
  heard_eq : heard x.remarks = heard x'.remarks

/-- **Whatever becomes of a run becomes of one with another verbosity.** -/
theorem Course.exists_sameWork {k k' : Circumstances} {w : World} {t : Timers} {c c' : Config}
    {x : Execution} (hx : Course k w t c x) (hc : c.SameButVerbosity c')
    (hbuild : k.build = k'.build) (t' : Timers) : ∃ x', Course k' w t' c' x' ∧ SameWork x x' := by
  obtain ⟨verbose, debug, rfl⟩ := hc
  have hversion : versionRemark k = versionRemark k' := by rw [versionRemark, hbuild, versionRemark]
  cases hx with
  | refused hcheck => exact ⟨_, .refused hcheck, rfl, rfl, by rw [hversion]⟩
  | unreadable hcheck hread =>
    refine ⟨_, .unreadable hcheck hread, rfl, rfl, ?_⟩
    rw [heard_saidToRead, heard_saidToRead, hversion]
  | empty hcheck hread hempty =>
    refine ⟨_, .empty hcheck hread hempty, rfl, rfl, ?_⟩
    rw [heard_saidToAnalyse, heard_saidToAnalyse, hversion]
    rfl
  | noDirectory hcheck hread hne hdir =>
    refine ⟨_, .noDirectory hcheck hread hne hdir, rfl, rfl, ?_⟩
    rw [heard_saidToDraw, heard_saidToDraw, hversion]
    rfl
  | notDrawn h himage =>
    refine ⟨_, .notDrawn ⟨h.check_eq, h.read_eq, h.measurements_ne, h.directory_eq⟩ himage, rfl,
      rfl, ?_⟩
    rw [heard_saidToDraw, heard_saidToDraw, hversion]
    rfl
  | drawn h hsummary himage =>
    refine ⟨_, .drawn ⟨h.check_eq, h.read_eq, h.measurements_ne, h.directory_eq⟩ hsummary himage,
      rfl, rfl, ?_⟩
    rw [heard_saidToEnd, heard_saidToEnd, hversion]
    rfl

end Run

namespace App

/-! ### What an application says -/

/-- What is heard of the end of a run. -/
def heardAtEnd (result : Except Fault RunReport) : List (Notice ⊕ Gist) :=
  match result with
  | .ok _ => [.inr ⟨"APP", .info, "plot finished"⟩]
  | .error f =>
    [.inr ⟨"ERR", .error, "Plotting failed: " ++ f.text⟩, .inr ⟨"APP", .warn, "plot failed"⟩]

/-- A run has the result of its steps. -/
theorem result_run (a : App) (k : Circumstances) (w : World) :
    (a.run k w).result = (Run.execute k w a.timers a.config).result :=
  rfl

/-- What is heard of a run: that it starts, what its steps say, and how it ends. -/
theorem heard_run (a : App) (k : Circumstances) (w : World) :
    (a.run k w).events.filterMap Event.heard? =
      .inr ⟨"APP", .info, "plot started"⟩ :: heard (Run.execute k w a.timers a.config).remarks ++
        heardAtEnd (a.run k w).result := by
  -- The session adds nothing to a gist.
  have heventOf (s : Session) (rs : List Remark) :
      (rs.map (eventOf a.config s)).filterMap Event.heard? = heard rs := by
    rw [List.filterMap_map]
    exact List.filterMap_congr fun r _ ↦ by cases r <;> rfl
  let l := Source.app.logger a.config
  have hstarted : (entryEvent l (a.session.perform l (.start k.operation operationName)).2).filterMap
      Event.heard? = [.inr ⟨"APP", .info, "plot started"⟩] := rfl
  have hended (s : Session) (result : Except Fault RunReport) :
      heard (failureRemarks a.config k.operation result) ++
        (entryEvent l (s.perform l (.finish k.operation operationName (succeeded result))).2).filterMap
          Event.heard? = heardAtEnd result := by
    cases result <;> rfl
  rw [run]
  simp only [List.filterMap_append, heventOf, heard_append]
  rw [hstarted, List.append_assoc, List.append_assoc, hended]
  rfl

/-- Every logger of a run has the threshold of its configuration. -/
theorem threshold_run {a : App} {k : Circumstances} {w : World} {l : Logger} {e : Entry}
    (h : .entry l e ∈ (a.run k w).events) : l.threshold = .ofConfig a.config := by
  rw [run] at h
  rcases List.mem_append.1 h with h | h
  · rcases List.mem_append.1 h with h | h
    · cases List.mem_singleton.1 h
      rfl
    · obtain ⟨r, -, hr⟩ := List.mem_map.1 h
      cases r with
      | notice => cases hr
      | entry => cases hr; rfl
  · cases List.mem_singleton.1 h
    rfl

/-! ### Two runs -/

/-- The report of a run. -/
def reportOf (c : Config) (r : RunReport) : Report :=
  .ofExtraction c.input.text r.chart.output.text r.extraction r.summary

/-- In the report of a run on up to `2 ^ 40` measurements the standard deviation has room. -/
theorem deviationFits_reportOf {k : Circumstances} {w : World} {t : Timers} {c : Config}
    {x : Execution} (hx : Run.Course k w t c x) {r : RunReport} (hr : x.result = .ok r)
    (hcount : r.summary.count ≤ 2 ^ 40) : (reportOf c r).DeviationFits := by
  cases hx with
  | refused | unreadable | empty | noDirectory | notDrawn => cases hr
  | drawn _ hsummary _ =>
    cases hr
    exact Report.deviationFits (Extraction.exact_ofLines _ _) hsummary hcount _ _

/-- What a run tells with one verbosity and with another. -/
structure OnlyTellsMore (a a' : App) (x x' : RunOutcome) : Prop where
  /-- The results are the same. -/
  result_eq : x.result = x'.result
  /-- What is left is the same. -/
  world_eq : x.world = x'.world
  /-- The notices are the same. -/
  notices_eq : Event.notices x.events = Event.notices x'.events
  /-- The same is printed, unless that is a summary for readers and only one run is verbose. -/
  printed_eq : a.config.verbose = a'.config.verbose ∨ a.config.summaryFormat = .json ∨
      a.config.showSummary = false ∨ (∃ f, x.result = .error f) →
    ∀ escapes, printed escapes a.config x.result = printed escapes a'.config x'.result
  /-- Then the verbose run prints details in addition to what the other run prints. -/
  details : a.config.verbose = false → a'.config.verbose = true →
    a.config.summaryFormat = .text → a.config.showSummary = true →
    ∀ r, x.result = .ok r → ∀ escapes, ∃ rest,
      (Layout.forReaders escapes a.config.useColor).AddsDetails (reportOf a.config r) rest
        (printed escapes a'.config x'.result) ∧
      unfilled (printed escapes a.config x.result) = unfilled rest ∧
      ((reportOf a.config r).DeviationFits → printed escapes a.config x.result = rest)
  /-- And that is all, in a log of up to `2 ^ 40` measurements: the standard deviation has room. -/
  deviation_fits : ∀ r, x.result = .ok r → r.summary.count ≤ 2 ^ 40 →
    (reportOf a.config r).DeviationFits
  /-- Of what is at least progress, the run that tells less writes what reaches its threshold. -/
  written_eq : (Level.ofConfig a.config).reaches (.ofConfig a'.config) = true →
    (Event.written x.events).filter (·.level.reaches .info) =
      ((Event.written x'.events).filter (·.level.reaches .info)).filter
        (·.level.reaches (.ofConfig a.config))

section Printed

variable {c c' : Config} (h : c.SameButVerbosity c')

include h

theorem printed_eq_of_same {result : Except Fault RunReport}
    (hsame : c.verbose = c'.verbose ∨ c.summaryFormat = .json ∨ c.showSummary = false ∨
      ∃ f, result = .error f) (escapes : Bool) :
    printed escapes c result = printed escapes c' result := by
  obtain ⟨verbose, debug, rfl⟩ := h
  cases result with
  | error f => rfl
  | ok r =>
    rcases hsame with hverbose | hjson | hquiet | ⟨f, hf⟩
    · simp only [printed, formatSummary, hverbose]
    · simp only [printed, formatSummary, hjson, Formatter.ofFormat]
    · simp only [printed, hquiet]
      rfl
    · cases hf

theorem printed_details (hbrief : c.verbose = false) (hverbose : c'.verbose = true)
    (htext : c.summaryFormat = .text) (hshow : c.showSummary = true) (r : RunReport)
    (escapes : Bool) :
    ∃ rest, (Layout.forReaders escapes c.useColor).AddsDetails (reportOf c r) rest
        (printed escapes c' (.ok r)) ∧
      unfilled (printed escapes c (.ok r)) = unfilled rest ∧
      ((reportOf c r).DeviationFits → printed escapes c (.ok r) = rest) := by
  obtain ⟨verbose, debug, rfl⟩ := h
  obtain rfl : verbose = true := hverbose
  simp only [printed, formatSummary, hbrief, htext, hshow, if_true]
  exact Formatter.addsDetails_forReaders escapes c.useColor (reportOf c r)

end Printed

/-- A level that reaches a threshold reaches every threshold below. -/
theorem reaches_of_reaches {level threshold threshold' : Level}
    (h : level.reaches threshold = true) (hle : threshold.reaches threshold' = true) :
    level.reaches threshold' = true := by
  simp only [Level.reaches, decide_eq_true_eq] at *
  exact Nat.le_trans hle h

/-- **Verbosity decides what is told, and nothing else.** Two runs whose configurations differ in
nothing but their verbosity, of one build of the program, come to the same result and leave the same
world, with whatever ids, times, timers and sessions. -/
theorem run_with_another_verbosity {a a' : App} {k k' : Circumstances}
    (hc : a.config.SameButVerbosity a'.config) (hbuild : k.build = k'.build) (w : World) :
    OnlyTellsMore a a' (a.run k w) (a'.run k' w) := by
  obtain ⟨x', hx', hwork⟩ :=
    (Run.course_execute k w a.timers a.config).exists_sameWork hc hbuild a'.timers
  obtain rfl := hx'.eq_execute
  have hresult : (a.run k w).result = (a'.run k' w).result := hwork.result_eq
  have hheard : (a.run k w).events.filterMap Event.heard? =
      (a'.run k' w).events.filterMap Event.heard? := by
    rw [heard_run, heard_run, hwork.heard_eq, hresult]
  refine ⟨hresult, hwork.world_eq, ?_, ?_, ?_, fun r hr ↦ ?_, ?_⟩
  · rw [Event.notices_eq, Event.notices_eq, hheard]
  · intro hsame escapes
    rw [← hresult]
    exact printed_eq_of_same hc hsame escapes
  · intro hbrief hverbose htext hshow r hr escapes
    rw [← hresult, hr]
    exact printed_details hc hbrief hverbose htext hshow r escapes
  · exact deviationFits_reportOf (Run.course_execute k w a.timers a.config) hr
  · intro hle
    rw [Event.filter_written fun _ _ ↦ threshold_run, Event.filter_written fun _ _ ↦ threshold_run,
      hheard, List.filter_filter]
    refine List.filter_congr fun g _ ↦ ?_
    rw [Bool.eq_iff_iff, Bool.and_eq_true]
    exact ⟨fun h ↦ ⟨h, reaches_of_reaches h hle⟩, fun h ↦ h.1⟩

/-- An application for a log that stands alone, with a summary and some verbosity. -/
def forLoneLog (session : String) (verbose debug : Bool) : App :=
  let c := Config.forInput ⟨"a.log"⟩
  .ofConfig
    { c with output := some ⟨"plot.png"⟩, showSummary := true, verbose := verbose, debug := debug }
    session

/-- Its circumstances, with some id and some duration of each phase. -/
def circumstancesOf (operation : String) (nanos : Nat) : Circumstances :=
  ⟨operation, fun _ ↦ .ofNanos nanos, "build"⟩

/-- A quiet run and one that tells everything: both succeed, with one report. -/
theorem quiet_and_debugging_run :
    let quiet := forLoneLog "first" false false
    let debugging := forLoneLog "second" true true
    let w : World := ⟨Run.loneDisk, none⟩
    let x := quiet.run (circumstancesOf "first run" 0) w
    let x' := debugging.run (circumstancesOf "second run" 1) w
    quiet.config.SameButVerbosity debugging.config ∧
      (circumstancesOf "first run" 0).build = (circumstancesOf "second run" 1).build ∧
      (Level.ofConfig quiet.config).reaches (.ofConfig debugging.config) = true ∧
      (∃ r, x.result = .ok r) ∧ OnlyTellsMore quiet debugging x x' := by
  intro quiet debugging w x x'
  have hvalid : quiet.config.validate w.disk = .ok () := by decide
  have hformat : formatOf quiet.config.resolvedOutput = .ok .png := by decide +kernel
  have htarget : w.disk.target quiet.config.resolvedOutput = .ok ["plot.png"] := by decide
  have hencode :=
    Run.encodeImage_pictureOf (c := quiet.config) (by decide) (by decide) Run.shortLog
  obtain ⟨r, hr, -⟩ := Run.exists_report hvalid Run.read_loneDisk Run.measurements_shortLog_ne
    hformat htarget hencode (circumstancesOf "first run" 0) quiet.timers
  have hc : quiet.config.SameButVerbosity debugging.config := ⟨true, true, rfl⟩
  have hbuild : (circumstancesOf "first run" 0).build = (circumstancesOf "second run" 1).build :=
    rfl
  have hsuccess : x.result = .ok r := (quiet.result_run _ w).trans hr
  exact ⟨hc, hbuild, by decide, ⟨r, hsuccess⟩, run_with_another_verbosity hc hbuild w⟩

end App

end LatencyCurve
