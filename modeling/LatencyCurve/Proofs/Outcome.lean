import LatencyCurve.Proofs.Course
import LatencyCurve.Proofs.Writing

/-!
# What a run ends with

How a run ends is decided by its configuration and by the file system that it finds. Conditions are
tried in a fixed order, and the first that fails names the kind of the fault (`Run.Verdict`); each
kind has one condition, so the kind tells what was wrong. Neither the fonts nor the steps that are
left to a run that has latencies have a fault of their own.

A fault leaves the file system as it was, unless the image was already being written
(`Run.KeepsDisk`), and a report agrees with itself (`Run.Coherent`). `Run.outcome_of_execute` says
all of this of every run.
-/

namespace LatencyCurve

/-! ### Conditions -/

/-- A configuration is refused with one of two kinds of fault. -/
theorem Config.kind_of_check {c : Config} {d : Disk} {f : Fault} (h : c.check d = .error f) :
    f.kind = .config ∨ f.kind = .validation := by
  have hfault : c.fault? d = some f := by
    rw [check, validate] at h
    cases hf : c.fault? d with
    | none => rw [hf] at h; cases h
    | some f' => rw [hf] at h; cases h; rfl
  have houtput {f : Fault} (h : c.outputFault? d = some f) : f.kind = .config := by
    obtain ⟨output, -, h⟩ := Option.bind_eq_some_iff.1 h
    split at h
    · cases h; rfl
    split at h <;> cases h
    rfl
  rw [fault?] at hfault
  split at hfault
  · cases hfault; exact .inl rfl
  split at hfault
  · cases hfault; exact .inr rfl
  split at hfault
  · cases hfault; exact .inr rfl
  split at hfault
  · cases hfault; exact .inr rfl
  exact .inl (houtput hfault)

/-- The image at a path has a directory to stand in: the path names none, or one that is there. -/
def Chart.HasDirectory (d : Disk) (output : Path) : Prop :=
  ∀ dir, output.parent? = some dir → dir.isEmpty = false → d.isDirectory dir = true

theorem Chart.missingDirectory?_eq_none_iff {d : Disk} {output : Path} :
    missingDirectory? d output = none ↔ HasDirectory d output := by
  rw [missingDirectory?, HasDirectory]
  cases output.parent? with
  | none => simp
  | some dir => cases hempty : dir.isEmpty <;> simp [hempty]

namespace Run

/-- A line of a log states a latency. -/
def HasLatency (log : ByteArray) : Prop :=
  ∃ line ∈ linesOf (Utf8.decode log.data.toList), isAccepted Pattern.standardOrder line = true

/-- What is extracted from a log is empty unless a line states a latency. -/
theorem measurements_extractionOf_ne_nil_iff {log : ByteArray} :
    (extractionOf log).series.measurements ≠ [] ↔ HasLatency log := by
  have hexact := Extraction.exact_ofLines (α := Float) Pattern.standardOrder
    (linesOf (Utf8.decode log.data.toList))
  rw [ne_eq, ← List.length_eq_zero_iff, ← Series.length, ← ne_eq, ← Nat.pos_iff_ne_zero]
  exact hexact.length_eq ▸ List.countP_pos_iff

/-- The configuration passes its checks. -/
def Passes (w : World) (c : Config) : Prop :=
  ∃ notices, c.check w.disk = .ok notices

/-- The kind of the fault that a run ends with, if it ends with one. -/
def faultKind? (result : Except Fault RunReport) : Option FaultKind :=
  match result with
  | .ok _ => none
  | .error f => some f.kind

@[simp] theorem kind_unreadable (input : Path) (e : FileError) : (unreadable input e).kind = .io :=
  rfl

@[simp] theorem kind_noLatencies (input : Path) (x : Extraction Float) :
    (noLatencies input x).kind = .empty :=
  rfl

@[simp] theorem kind_noDirectory (dir : Path) : (Chart.noDirectory dir).kind = .io :=
  rfl

/-! ### The kind of the fault -/

/-- The kind that a run ends with is that of the first condition that fails, `none` if they all
hold. -/
structure Verdict (w : World) (c : Config) (kind : Option FaultKind) : Prop where
  /-- The two kinds of a bad configuration are for one that does not pass. -/
  refused_iff : kind = some .config ∨ kind = some .validation ↔ ¬ Passes w c
  /-- If the log cannot be read, or its image has no directory, that is an error of files. -/
  io_iff : kind = some .io ↔ Passes w c ∧
    ((∃ e, w.disk.read c.input = .error e) ∨
      ∃ log, w.disk.read c.input = .ok log ∧ HasLatency log ∧
        ¬ Chart.HasDirectory w.disk c.resolvedOutput)
  /-- If no line of the log states a latency, the result is empty. -/
  empty_iff : kind = some .empty ↔ Passes w c ∧
    ∃ log, w.disk.read c.input = .ok log ∧ ¬ HasLatency log
  /-- If all is there but the image cannot be written, that is an error of rendering. -/
  render_iff : kind = some .render ↔ Passes w c ∧
    ∃ log, w.disk.read c.input = .ok log ∧ HasLatency log ∧
      Chart.HasDirectory w.disk c.resolvedOutput ∧
      ∃ e, (writeImage w.disk c.resolvedOutput (pictureOf c log)).1 = .error e
  /-- If it can be written too, the run succeeds. -/
  success_iff : kind = none ↔ Passes w c ∧
    ∃ log, w.disk.read c.input = .ok log ∧ HasLatency log ∧
      Chart.HasDirectory w.disk c.resolvedOutput ∧
      (writeImage w.disk c.resolvedOutput (pictureOf c log)).1 = .ok ()
  /-- No run ends with an error of parsing. -/
  not_parse : kind ≠ some .parse
  /-- No run ends with an internal error. -/
  not_internal : kind ≠ some .internal

theorem Draws.passes {w : World} {c : Config} {notices : List Notice} {log : ByteArray}
    (h : Draws w c notices log) : Passes w c :=
  ⟨notices, h.check_eq⟩

/-! ### What else a run leaves -/

/-- The file system after a run: as it was, but for the image. -/
structure KeepsDisk (w : World) (c : Config) (x : Execution) : Prop where
  /-- A fault other than one of rendering leaves the file system as it was. -/
  of_fault : ∀ f, x.result = .error f → f.kind ≠ .render → x.world.disk = w.disk
  /-- A run that succeeds has put one file where its image path leads. -/
  of_success : ∀ r, x.result = .ok r → ∃ l content,
    w.disk.target c.resolvedOutput = .ok l ∧ x.world.disk = w.disk.put l (.file content)
  /-- Nothing stands anywhere else that has not stood there before. -/
  elsewhere : ∀ l, w.disk.target c.resolvedOutput ≠ .ok l →
    x.world.disk.node? l = w.disk.node? l

/-- A report that agrees with itself and with the configuration. -/
structure Coherent (c : Config) (r : RunReport) : Prop where
  /-- The summary counts the measurements. -/
  count_eq : r.summary.count = r.extraction.series.length
  /-- There are some. -/
  count_pos : 1 ≤ r.summary.count
  /-- The extremes are the latencies at which the curve begins and ends. -/
  extremes : ∃ curve : List (CurvePoint Float Float), r.extraction.series.curve = .ok curve ∧
    curve.head?.map (·.latency) = some r.summary.min ∧
    curve.getLast?.map (·.latency) = some r.summary.max
  /-- The chart is where the configuration wants it. -/
  output_eq : r.chart.output = c.resolvedOutput

/-- Everything that is promised of how a run ends. -/
structure Outcome (w : World) (c : Config) (x : Execution) : Prop where
  /-- The first condition that fails decides. -/
  verdict : Verdict w c (faultKind? x.result)
  /-- The curve, the summary and the chart are never asked for without latencies. -/
  not_asked : ∀ f, x.result = .error f →
    f ≠ .noCurve ∧ f ≠ .noSummary ∧ f ≠ Chart.nothingToPlot
  /-- The file system is kept, but for the image. -/
  keepsDisk : KeepsDisk w c x
  /-- A report agrees with itself. -/
  coherent : ∀ r, x.result = .ok r → Coherent c r

/-- The fault of a log without latencies begins with words of its own. -/
theorem noLatencies_ne {input : Path} {x : Extraction Float} {f : Fault}
    (h : f.message.toList.take 3 ≠ "no ".toList) : noLatencies input x ≠ f := by
  rintro rfl
  simp [noLatencies, String.toList_append] at h

/-- The report of a run that has latencies agrees with itself. -/
theorem coherent_of_summary {w : World} {c : Config} {notices : List Notice} {log : ByteArray}
    {summary : Summary Float} (hne : (extractionOf log).series.measurements ≠ [])
    (h : Summary.ofSeries (extractionOf log).series = .ok summary) :
    Coherent c ⟨notices, extractionOf log, summary, chartOf w c⟩ := by
  obtain ⟨summary', hsummary', hcount⟩ := Summary.exists_ofSeries hne
  obtain rfl : summary = summary' := by simpa [h] using hsummary'
  obtain ⟨hleast, hgreatest⟩ := Summary.extremes_of_ofSeries h
  refine ⟨hcount, ?_, ⟨curvePoints (extractionOf log).series.sorted, ?_, ?_, ?_⟩, rfl⟩
  · exact hcount ▸ List.length_pos_iff.2 hne
  · rw [Series.curve_eq, if_neg hne]
  · rw [← List.head?_map, map_latency_curvePoints, hleast]
  · rw [← List.getLast?_map, map_latency_curvePoints, hgreatest]

namespace Course

variable {k : Circumstances} {w : World} {t : Timers} {c : Config} {x : Execution}

/-- The verdict on a run. Its course says of each condition that was tried what came of it, and that
decides every line of the verdict. -/
theorem verdict (hx : Course k w t c x) : Verdict w c (faultKind? x.result) := by
  cases hx with
  | refused hcheck =>
    have hpasses : ¬ Passes w c := by simp [Passes, hcheck]
    rcases Config.kind_of_check hcheck with hkind | hkind <;>
      constructor <;> simp [faultKind?, hkind, hpasses]
  | unreadable hcheck hread =>
    have hpasses : Passes w c := ⟨_, hcheck⟩
    constructor <;> simp [faultKind?, hpasses, hread]
  | empty hcheck hread hempty =>
    have hpasses : Passes w c := ⟨_, hcheck⟩
    have hlatency := mt measurements_extractionOf_ne_nil_iff.2 (not_not.2 hempty)
    constructor <;> simp [faultKind?, hpasses, hread, hlatency]
  | noDirectory hcheck hread hne hdir =>
    have hpasses : Passes w c := ⟨_, hcheck⟩
    have hlatency := measurements_extractionOf_ne_nil_iff.1 hne
    have hdirectory : ¬ Chart.HasDirectory w.disk c.resolvedOutput := by
      rw [← Chart.missingDirectory?_eq_none_iff, hdir]
      nofun
    constructor <;> simp [faultKind?, hpasses, hread, hlatency, hdirectory]
  | notDrawn h himage =>
    have hlatency := measurements_extractionOf_ne_nil_iff.1 h.measurements_ne
    have hdirectory := Chart.missingDirectory?_eq_none_iff.1 h.directory_eq
    constructor <;> simp [faultKind?, h.passes, h.read_eq, hlatency, hdirectory, himage]
  | drawn h _ himage =>
    have hlatency := measurements_extractionOf_ne_nil_iff.1 h.measurements_ne
    have hdirectory := Chart.missingDirectory?_eq_none_iff.1 h.directory_eq
    constructor <;> simp [faultKind?, h.passes, h.read_eq, hlatency, hdirectory, himage]

/-- An empty result is the fault of the log, told before anything is computed. -/
theorem not_asked (hx : Course k w t c x) {f : Fault} (hf : x.result = .error f) :
    f ≠ .noCurve ∧ f ≠ .noSummary ∧ f ≠ Chart.nothingToPlot := by
  have hkind (h : f.kind ≠ .empty) : f ≠ .noCurve ∧ f ≠ .noSummary ∧ f ≠ Chart.nothingToPlot := by
    refine ⟨?_, ?_, ?_⟩ <;> rintro rfl <;> exact h rfl
  cases hx with
  | refused hcheck =>
    cases hf
    refine hkind ?_
    rcases Config.kind_of_check hcheck with h | h <;> rw [h] <;> nofun
  | unreadable | noDirectory | notDrawn => cases hf; exact hkind nofun
  | empty =>
    cases hf
    exact ⟨noLatencies_ne (by decide), noLatencies_ne (by decide), noLatencies_ne (by decide)⟩
  | drawn => cases hf

theorem keepsDisk (hx : Course k w t c x) : KeepsDisk w c x where
  of_fault f hf hkind := by
    cases hx with
    | refused | unreadable | empty | noDirectory => rfl
    | notDrawn => cases hf; exact absurd rfl hkind
    | drawn => cases hf
  of_success r hr := by
    cases hx with
    | refused | unreadable | empty | noDirectory | notDrawn => cases hr
    | drawn _ _ himage =>
      obtain ⟨-, l, content, -, hl, -, rfl⟩ := writeImage_eq_ok_iff.1 himage
      exact ⟨l, content, hl, rfl⟩
  elsewhere _ h := hx.node?_of_target_ne h

theorem coherent (hx : Course k w t c x) {r : RunReport} (hr : x.result = .ok r) :
    Coherent c r := by
  cases hx with
  | refused | unreadable | empty | noDirectory | notDrawn => cases hr
  | drawn h hsummary _ => cases hr; exact coherent_of_summary h.measurements_ne hsummary

end Course

/-- **What a run ends with**, for every configuration and in every world: the kind of the fault is
that of the first condition that fails, the file system is kept but for the image, and a report
agrees with itself. -/
theorem outcome_of_execute (k : Circumstances) (w : World) (t : Timers) (c : Config) :
    Outcome w c (execute k w t c) :=
  have hx := course_execute k w t c
  ⟨hx.verdict, fun _ ↦ hx.not_asked, hx.keepsDisk, fun _ ↦ hx.coherent⟩

end Run

end LatencyCurve
