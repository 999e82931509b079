import LatencyCurve.Proofs.Distribution
import LatencyCurve.Proofs.Extraction
import LatencyCurve.Proofs.Writing
import LatencyCurve.Run

/-!
# The courses a run can take

A run goes through its steps in order and stops at the first that fails. What it does is stated here
as rules instead (`Run.Course`), one for each place where it can stop and one for the run that goes
through. A rule says everything: the result, what the file system and the font registry are
afterwards, the timers, and what has been said. The program takes exactly one course
(`Run.course_iff`), so whatever is to be known about runs is a case analysis over the rules, and
nothing else has to look at the steps again.

There is no rule for an analysis that fails. A run analyses only what has latencies, and then there
are a curve and a summary.
-/

namespace LatencyCurve

/-- A configuration that passes has all notices. -/
theorem Config.check_eq_ok_iff {c : Config} {d : Disk} {notices : List Notice} :
    c.check d = .ok notices ↔ c.validate d = .ok () ∧
      c.inputNotices d ++ c.outputNotices d ++ c.sizeNotices ++ c.fontNotices d = notices := by
  rw [check]
  cases c.validate d <;> simp [Except.map]

/-- Drawing a curve that is there: only the directory of the image and the image itself can fail. -/
theorem Chart.render_of_ne (d : Disk) (registry : Font.Registry) (o : ChartOptions)
    {curve : List (CurvePoint Float Float)} (output : Path) (hcurve : curve ≠ []) :
    render d registry o curve output =
      match missingDirectory? d output, writeImage d output (picture o curve) with
      | some dir, _ => ⟨.error (noDirectory dir), d, registry⟩
      | none, (.error e, d') =>
        ⟨.error ⟨.render, e.text⟩, d', Font.registryAfter registry (Font.choose d registry o.font)⟩
      | none, (.ok (), d') =>
        let choice := Font.choose d registry o.font
        ⟨.ok ⟨output, choice.font, choice.warning⟩, d', Font.registryAfter registry choice⟩ := by
  rw [render, if_neg (by simpa using hcurve)]
  cases missingDirectory? d output with
  | some dir => rfl
  | none => rcases writeImage d output (picture o curve) with ⟨e | _, d'⟩ <;> rfl

namespace Run

/-! ### What a run works on -/

/-- What a run extracts from a log. -/
def extractionOf (log : ByteArray) : Extraction Float :=
  .ofBytes Pattern.standardOrder log.data.toList

/-- The fault of a log that cannot be read. -/
def unreadable (input : Path) (e : FileError) : Fault :=
  (Fault.ofFile e.text).within ("Cannot read input log '" ++ input.text ++ "'")

/-- The picture that a run draws of a log. -/
def pictureOf (c : Config) (log : ByteArray) : Bitmap :=
  Chart.picture (.ofConfig c) (curvePoints (extractionOf log).series.sorted)

/-- A picture of an allowed size has a PNG image. -/
theorem encodeImage_pictureOf {c : Config} (hwidth : Config.sizeAllowed c.width = true)
    (hheight : Config.sizeAllowed c.height = true) (log : ByteArray) :
    encodeImage .png (pictureOf c log) = .ok (Png.encode (pictureOf c log)) := by
  have hne {n : Nat} (h : Config.sizeAllowed n = true) : n ≠ 0 := by
    rintro rfl
    cases h
  have hw : (pictureOf c log).width = c.width := Chart.width_picture _ _
  have hh : (pictureOf c log).height = c.height := Chart.height_picture _ _
  simp only [encodeImage, hw, hh, if_neg (hne hwidth), if_neg (hne hheight)]

/-- The font that a run draws with. -/
def fontOf (w : World) (c : Config) : Font.Choice :=
  Font.choose w.disk w.registry c.font

/-- The chart that a run draws. -/
def chartOf (w : World) (c : Config) : ChartOutcome :=
  ⟨c.resolvedOutput, (fontOf w c).font, (fontOf w c).warning⟩

/-- What a run leaves that has drawn something, or tried to. -/
def worldWith (w : World) (c : Config) (d : Disk) : World :=
  ⟨d, Font.registryAfter w.registry (fontOf w c)⟩

/-- A run that gets as far as drawing: its configuration passes, its log can be read and has
latencies, and the image has a directory. -/
structure Draws (w : World) (c : Config) (notices : List Notice) (log : ByteArray) : Prop where
  /-- The configuration passes. -/
  check_eq : c.check w.disk = .ok notices
  /-- The log can be read. -/
  read_eq : w.disk.read c.input = .ok log
  /-- There are latencies in it. -/
  measurements_ne : (extractionOf log).series.measurements ≠ []
  /-- The directory of the image is there. -/
  directory_eq : Chart.missingDirectory? w.disk c.resolvedOutput = none

/-- There are points on the curve of latencies that are there. -/
theorem curve_ne {log : ByteArray} (h : (extractionOf log).series.measurements ≠ []) :
    (curvePoints (extractionOf log).series.sorted : List (CurvePoint Float Float)) ≠ [] :=
  curvePoints_ne_nil.2 (mt Series.sorted_eq_nil_iff.1 h)

/-! ### What has been said so far -/

variable (k : Circumstances) (w : World) (t : Timers) (c : Config)

/-- What has been said when the log is read. -/
def saidToRead (notices : List Notice) : List Remark :=
  opening k c notices ++ [phaseStarted c extractPhase]

/-- The timers when the log has been read. -/
def timersToAnalyse : Timers :=
  (t.start extractPhase).finish extractPhase

/-- What has been said when the log has been read. -/
def saidToAnalyse (notices : List Notice) (x : Extraction Float) : List Remark :=
  saidToRead k c notices ++ [phaseEnded k c (t.start extractPhase) extractPhase, extractedRemark c x]

/-- The timers when the curve is drawn. -/
def timersToDraw : Timers :=
  (((timersToAnalyse t).start curvePhase).finish curvePhase).start drawPhase

/-- What has been said when the curve is drawn. -/
def saidToDraw (notices : List Notice) (x : Extraction Float) : List Remark :=
  saidToAnalyse k t c notices x ++ [phaseStarted c curvePhase] ++
    [phaseEnded k c ((timersToAnalyse t).start curvePhase) curvePhase] ++ [phaseStarted c drawPhase]

/-- What has been said when the curve has been drawn. -/
def saidToEnd (notices : List Notice) (x : Extraction Float) (o : ChartOutcome) : List Remark :=
  saidToDraw k t c notices x ++ phaseEnded k c (timersToDraw t) drawPhase :: drawnRemarks c o

/-! ### The rules -/

/-- `Course k w t c x`: what becomes of a run is `x`. -/
inductive Course : Execution → Prop
  /-- The configuration is refused. -/
  | refused {f : Fault} (hcheck : c.check w.disk = .error f) :
      Course ⟨.error f, w, t, [versionRemark k]⟩
  /-- The log cannot be read. -/
  | unreadable {notices : List Notice} {e : FileError} (hcheck : c.check w.disk = .ok notices)
      (hread : w.disk.read c.input = .error e) :
      Course ⟨.error (unreadable c.input e), w, t.start extractPhase, saidToRead k c notices⟩
  /-- There are no latencies in the log. -/
  | empty {notices : List Notice} {log : ByteArray} (hcheck : c.check w.disk = .ok notices)
      (hread : w.disk.read c.input = .ok log)
      (hempty : (extractionOf log).series.measurements = []) :
      Course ⟨.error (noLatencies c.input (extractionOf log)), w, timersToAnalyse t,
        saidToAnalyse k t c notices (extractionOf log)⟩
  /-- The directory of the image is missing. -/
  | noDirectory {notices : List Notice} {log : ByteArray} {dir : Path}
      (hcheck : c.check w.disk = .ok notices) (hread : w.disk.read c.input = .ok log)
      (hne : (extractionOf log).series.measurements ≠ [])
      (hdir : Chart.missingDirectory? w.disk c.resolvedOutput = some dir) :
      Course ⟨.error (Chart.noDirectory dir), w, timersToDraw t,
        saidToDraw k t c notices (extractionOf log)⟩
  /-- The image cannot be written. -/
  | notDrawn {notices : List Notice} {log : ByteArray} {e : ImageError} {d : Disk}
      (h : Draws w c notices log)
      (himage : writeImage w.disk c.resolvedOutput (pictureOf c log) = (.error e, d)) :
      Course ⟨.error ⟨.render, e.text⟩, worldWith w c d, timersToDraw t,
        saidToDraw k t c notices (extractionOf log)⟩
  /-- The image is written. -/
  | drawn {notices : List Notice} {log : ByteArray} {summary : Summary Float} {d : Disk}
      (h : Draws w c notices log)
      (hsummary : Summary.ofSeries (extractionOf log).series = .ok summary)
      (himage : writeImage w.disk c.resolvedOutput (pictureOf c log) = (.ok (), d)) :
      Course ⟨.ok ⟨notices, extractionOf log, summary, chartOf w c⟩, worldWith w c d,
        (timersToDraw t).finish drawPhase,
        saidToEnd k t c notices (extractionOf log) (chartOf w c)⟩

/-! ### The rules and the program -/

variable {k w t c}

/-- A run whose configuration passes and whose log can be read analyses what it has extracted. -/
theorem execute_of_read {notices : List Notice} {log : ByteArray}
    (hcheck : c.check w.disk = .ok notices) (hread : w.disk.read c.input = .ok log) :
    execute k w t c =
      analyseRun k w c (timersToAnalyse t) (saidToAnalyse k t c notices (extractionOf log)) notices
        (extractionOf log) := by
  rw [execute, hcheck]
  dsimp only
  rw [readLog, hread]
  rfl

/-- If there are latencies in the log, it goes on to draw their curve. -/
theorem execute_of_measurements {notices : List Notice} {log : ByteArray} {summary : Summary Float}
    (hcheck : c.check w.disk = .ok notices) (hread : w.disk.read c.input = .ok log)
    (hne : (extractionOf log).series.measurements ≠ [])
    (hsummary : Summary.ofSeries (extractionOf log).series = .ok summary) :
    execute k w t c =
      finishRun k w c (((timersToAnalyse t).start curvePhase).finish curvePhase)
        (saidToAnalyse k t c notices (extractionOf log) ++ [phaseStarted c curvePhase] ++
          [phaseEnded k c ((timersToAnalyse t).start curvePhase) curvePhase])
        notices (extractionOf log) (curvePoints (extractionOf log).series.sorted) summary := by
  have hanalyse : analyse (extractionOf log).series =
      .ok (curvePoints (extractionOf log).series.sorted, summary) := by
    rw [analyse, Series.curve_eq, if_neg hne, hsummary]
  rw [execute_of_read hcheck hread, analyseRun, requireLatencies, Series.isEmpty,
    List.isEmpty_eq_false_iff.2 hne]
  simp only [Bool.false_eq_true, if_false, hanalyse]

/-- A run takes no course but the one the program takes. -/
theorem Course.eq_execute {x : Execution} (h : Course k w t c x) : x = execute k w t c := by
  cases h with
  | refused hcheck => rw [execute, hcheck]
  | unreadable hcheck hread =>
    rw [execute, hcheck]
    dsimp only
    rw [readLog, hread]
    rfl
  | empty hcheck hread hempty =>
    rw [execute_of_read hcheck hread, analyseRun, requireLatencies, Series.isEmpty, hempty]
    rfl
  | noDirectory hcheck hread hne hdir =>
    obtain ⟨summary, hsummary, -⟩ := Summary.exists_ofSeries hne
    rw [execute_of_measurements hcheck hread hne hsummary, finishRun,
      Chart.render_of_ne _ _ _ _ (curve_ne hne), hdir]
    rfl
  | notDrawn h himage =>
    obtain ⟨summary, hsummary, -⟩ := Summary.exists_ofSeries h.measurements_ne
    rw [execute_of_measurements h.check_eq h.read_eq h.measurements_ne hsummary, finishRun,
      Chart.render_of_ne _ _ _ _ (curve_ne h.measurements_ne), h.directory_eq]
    rw [pictureOf] at himage
    rw [himage]
    rfl
  | drawn h hsummary himage =>
    rw [execute_of_measurements h.check_eq h.read_eq h.measurements_ne hsummary, finishRun,
      Chart.render_of_ne _ _ _ _ (curve_ne h.measurements_ne), h.directory_eq]
    rw [pictureOf] at himage
    rw [himage]
    rfl

/-- Every run takes a course. -/
theorem exists_course (k : Circumstances) (w : World) (t : Timers) (c : Config) :
    ∃ x, Course k w t c x := by
  cases hcheck : c.check w.disk with
  | error f => exact ⟨_, .refused hcheck⟩
  | ok notices =>
    cases hread : w.disk.read c.input with
    | error e => exact ⟨_, .unreadable hcheck hread⟩
    | ok log =>
      by_cases hempty : (extractionOf log).series.measurements = []
      · exact ⟨_, .empty hcheck hread hempty⟩
      cases hdir : Chart.missingDirectory? w.disk c.resolvedOutput with
      | some dir => exact ⟨_, .noDirectory hcheck hread hempty hdir⟩
      | none =>
        obtain ⟨summary, hsummary, -⟩ := Summary.exists_ofSeries hempty
        have hdraws : Draws w c notices log := ⟨hcheck, hread, hempty, hdir⟩
        cases himage : writeImage w.disk c.resolvedOutput (pictureOf c log) with
        | mk written d =>
          cases written with
          | error e => exact ⟨_, .notDrawn hdraws himage⟩
          | ok => exact ⟨_, .drawn hdraws hsummary himage⟩

/-- **The program takes exactly one course**, the one that the rules say. -/
theorem course_iff {x : Execution} : Course k w t c x ↔ x = execute k w t c := by
  refine ⟨Course.eq_execute, ?_⟩
  rintro rfl
  obtain ⟨x, hx⟩ := exists_course k w t c
  rwa [← hx.eq_execute]

theorem course_execute (k : Circumstances) (w : World) (t : Timers) (c : Config) :
    Course k w t c (execute k w t c) :=
  course_iff.2 rfl

/-- A run that gets as far as drawing succeeds if its image is written. -/
theorem Draws.execute_of_written {notices : List Notice} {log : ByteArray} {d : Disk}
    (h : Draws w c notices log)
    (himage : writeImage w.disk c.resolvedOutput (pictureOf c log) = (.ok (), d))
    (k : Circumstances) (t : Timers) :
    (∃ summary, (execute k w t c).result = .ok ⟨notices, extractionOf log, summary, chartOf w c⟩) ∧
      (execute k w t c).world = worldWith w c d := by
  obtain ⟨summary, hsummary, -⟩ := Summary.exists_ofSeries h.measurements_ne
  rw [← (Course.drawn (k := k) (t := t) h hsummary himage).eq_execute]
  exact ⟨⟨summary, rfl⟩, rfl⟩

/-- What it takes for a run to succeed: a valid configuration, a log with latencies, and an image
that can be written. -/
theorem exists_report {log : ByteArray} {format : ImageFormat} {l : Location} {content : ByteArray}
    (hvalid : c.validate w.disk = .ok ()) (hread : w.disk.read c.input = .ok log)
    (hne : (extractionOf log).series.measurements ≠ [])
    (hformat : formatOf c.resolvedOutput = .ok format)
    (htarget : w.disk.target c.resolvedOutput = .ok l)
    (hencode : encodeImage format (pictureOf c log) = .ok content)
    (k : Circumstances) (t : Timers) :
    ∃ r, (execute k w t c).result = .ok r ∧ r.chart.output = c.resolvedOutput := by
  have hdraws : Draws w c _ log :=
    ⟨Config.check_eq_ok_iff.2 ⟨hvalid, rfl⟩, hread, hne,
      Chart.missingDirectory?_of_target htarget⟩
  have himage := writeImage_eq_ok_iff.2 ⟨format, l, content, hformat, htarget, hencode, rfl⟩
  obtain ⟨⟨summary, hresult⟩, -⟩ := hdraws.execute_of_written himage k t
  exact ⟨_, hresult, rfl⟩

/-! ### What a run changes -/

namespace Course

variable {x : Execution}

/-- **A run changes nothing but what its image path reaches.** -/
theorem node?_of_target_ne (hx : Course k w t c x) {l : Location}
    (h : w.disk.target c.resolvedOutput ≠ .ok l) : x.world.disk.node? l = w.disk.node? l := by
  have hwritten {b : Bitmap} {written : Except ImageError Unit} {d : Disk}
      (himage : writeImage w.disk c.resolvedOutput b = (written, d)) :
      d.node? l = w.disk.node? l := by
    have hdisk := disk_writeImage w.disk c.resolvedOutput b
    rw [himage] at hdisk
    rcases hdisk with rfl | ⟨l', content, hl', rfl⟩
    · rfl
    · refine w.disk.node?_put_of_ne _ fun hll' ↦ ?_
      exact h (hll' ▸ hl')
  cases hx with
  | refused | unreadable | empty | noDirectory => rfl
  | notDrawn _ himage => exact hwritten himage
  | drawn _ _ himage => exact hwritten himage

/-- A run whose log has no latencies changes nothing. -/
theorem world_eq_of_empty (hx : Course k w t c x) {log : ByteArray}
    (hread : w.disk.read c.input = .ok log) (hempty : (extractionOf log).series.measurements = []) :
    x.world = w := by
  cases hx with
  | refused | unreadable | empty | noDirectory => rfl
  | notDrawn hdraws _ | drawn hdraws _ _ =>
    obtain rfl : _ = log := by simpa [hread] using hdraws.read_eq.symm
    exact absurd hempty hdraws.measurements_ne

/-! ### What a report says -/

variable {r : RunReport}

/-- The report of a successful run has the notices of the check. -/
theorem check_eq_notices (hx : Course k w t c x) (hr : x.result = .ok r) :
    c.check w.disk = .ok r.notices := by
  cases hx with
  | refused | unreadable | empty | noDirectory | notDrawn => cases hr
  | drawn h _ _ => cases hr; exact h.check_eq

/-- It names the path that the configuration has for the image. -/
theorem output_eq (hx : Course k w t c x) (hr : x.result = .ok r) :
    r.chart.output = c.resolvedOutput := by
  cases hx with
  | refused | unreadable | empty | noDirectory | notDrawn => cases hr
  | drawn => cases hr; rfl

end Course

/-! ### A log -/

/-- The log of a single line, `;5`. -/
def shortLog : ByteArray := Bytes.ofList [0x3B, 0x35]

/-- A file system with nothing in it but a log. -/
def loneDisk : Disk where
  nodes := [(["a.log"], .file shortLog)]
  current := []

theorem read_loneDisk : loneDisk.read ⟨"a.log"⟩ = .ok shortLog := by rfl

theorem measurements_shortLog_ne : (extractionOf shortLog).series.measurements ≠ [] := by decide

end Run

end LatencyCurve
