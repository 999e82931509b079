import LatencyCurve.Proofs.Course
import LatencyCurve.Proofs.ImagePath

/-!
# Whether a run keeps its log

A run writes one file, at the place that its image path reaches when it is opened for writing
(`Run.Course.node?_of_target_ne`). So it keeps its log unless that place is the log.

For an image path that was asked for it never is: the check for one file under two paths comes
before anything is written, and it misses nothing (`Disk.sameLocation_of_target`). The path beside
the input is not checked. It differs from the input as a text, but a link at that path may lead to
the log, and then the image takes the place of the log. `Run.execute_keeps_log_iff` says that this
is the only way in which a log is lost.
-/

namespace LatencyCurve

namespace Run

/-! ### The log -/

/-- The image that a run draws of a log. -/
def imageOf (c : Config) (log : ByteArray) : ByteArray :=
  Png.encode (Chart.picture (.ofConfig c) (curvePoints (extractionOf log).series.sorted))

/-- A run reaches its log by the path beside it: no other path was asked for, the one beside the
input leads to the log, and there is something to draw. -/
structure ReachesLog (d : Disk) (c : Config) (l : Location) (log : ByteArray) : Prop where
  /-- The image stands beside the input. -/
  output_eq : c.output = none
  /-- The path beside the input is opened at the log. -/
  target_eq : d.target (Config.besideInput c.input) = .ok l
  /-- There are latencies in the log. -/
  measurements_ne : (extractionOf log).series.measurements ≠ []

/-- A path that was asked for and passes the check does not reach the log. -/
theorem target_ne_of_output {d : Disk} {c : Config} {output : Path} {l : Location}
    (hvalid : c.validate d = .ok ()) (houtput : c.output = some output)
    (hlog : d.locate c.input = .ok l) (hnode : (d.node? l).isSome = true) :
    d.target output ≠ .ok l := by
  intro htarget
  obtain ⟨-, -, hsame⟩ := (Config.validate_eq_ok_iff_of_output houtput).1 hvalid
  rw [Disk.sameLocation_of_target htarget (Disk.canonical_of_locate hlog) hnode] at hsame
  cases hsame

section Log

variable {k : Circumstances} {w : World} {t : Timers} {c : Config} {l : Location} {log : ByteArray}
  (hvalid : c.validate w.disk = .ok ()) (hlog : w.disk.locate c.input = .ok l)
  (hfile : w.disk.node? l = some (.file log))

include hvalid hlog hfile

/-- **What becomes of a log that is reached**: the image. -/
theorem node?_execute_of_reachesLog (h : ReachesLog w.disk c l log) :
    (execute k w t c).world.disk.node? l = some (.file (imageOf c log)) := by
  obtain ⟨-, hwidth, hheight, -, -⟩ := Config.validate_eq_ok_iff.1 hvalid
  have hcheck : ∃ notices, c.check w.disk = .ok notices := by
    rw [Config.check, hvalid]
    exact ⟨_, rfl⟩
  obtain ⟨notices, hnotices⟩ := hcheck
  -- Behind a slash the suffix would be a name without an extension, but no log is read there.
  have hformat : formatOf (Config.besideInput c.input) = .ok .png := by
    refine formatOf_besideInput fun hlast ↦ ?_
    have hcanonical := Disk.canonical_of_locate hlog
    exact absurd (Disk.isIdle_of_canonical_file hcanonical hfile hlast) (by decide)
  have houtput : c.resolvedOutput = Config.besideInput c.input := by
    rw [Config.resolvedOutput, h.output_eq]
    rfl
  have hencode : encodeImage .png (pictureOf c log) = .ok (imageOf c log) :=
    encodeImage_pictureOf hwidth hheight log
  have himage : writeImage w.disk c.resolvedOutput (pictureOf c log) =
      (.ok (), w.disk.put l (.file (imageOf c log))) :=
    writeImage_eq_ok_iff.2 ⟨.png, l, _, houtput ▸ hformat, houtput ▸ h.target_eq, hencode, rfl⟩
  have hdraws : Draws w c notices log :=
    ⟨hnotices, Disk.read_of_locate hlog hfile, h.measurements_ne,
      houtput ▸ Chart.missingDirectory?_of_target h.target_eq⟩
  rw [(hdraws.execute_of_written himage k t).2]
  exact w.disk.node?_put_self _ (Disk.ne_nil_of_node?_file hfile)

/-- A log that is not reached stays as it is. -/
theorem node?_execute_of_not_reachesLog (h : ¬ ReachesLog w.disk c l log) :
    (execute k w t c).world.disk.node? l = w.disk.node? l := by
  -- Without latencies nothing is drawn, wherever the path leads.
  by_cases hempty : (extractionOf log).series.measurements = []
  · rw [(course_execute k w t c).world_eq_of_empty (Disk.read_of_locate hlog hfile) hempty]
  · refine (course_execute k w t c).node?_of_target_ne fun htarget ↦ ?_
    cases houtput : c.output with
    | none =>
      rw [Config.resolvedOutput, houtput] at htarget
      exact h ⟨houtput, htarget, hempty⟩
    | some output =>
      rw [Config.resolvedOutput, houtput] at htarget
      exact target_ne_of_output hvalid houtput hlog (by rw [hfile]; rfl) htarget

/-- **When a run keeps its log**: always, but for one case. If no image path was asked for, the path
beside the input leads to the log itself, and there is something to draw, then the log becomes the
image. A log is kept in that case only if it is that image already. -/
theorem execute_keeps_log_iff :
    (execute k w t c).world.disk.node? l = some (.file log) ↔
      ¬ (ReachesLog w.disk c l log ∧ imageOf c log ≠ log) := by
  by_cases hreach : ReachesLog w.disk c l log
  · rw [node?_execute_of_reachesLog hvalid hlog hfile hreach]
    simp [hreach]
  · rw [node?_execute_of_not_reachesLog hvalid hlog hfile hreach, hfile]
    simp [hreach]

end Log

/-! ### A log that is lost -/

/-- A log, and beside it a link to it that has the name of its image. -/
def linkedDisk : Disk where
  nodes := [(["logs"], .directory), (["logs", "a.log"], .file shortLog),
    (["logs", "a.log.png"], .link ⟨"a.log"⟩)]
  current := ["logs"]

/-- The configuration for that log, with the image at some path. -/
def linkedConfig (output : Option Path) : Config :=
  { Config.forInput ⟨"a.log"⟩ with output := output }

/-- The run for that log, with the image at some path. -/
def linkedRun (output : Option Path) : Execution :=
  execute ⟨"run", fun _ ↦ .ofNanos 0, "build"⟩ ⟨linkedDisk, none⟩ .none (linkedConfig output)

/-- With its image elsewhere the log is kept. -/
theorem execute_keeps_linked_log :
    (linkedConfig (some ⟨"plot.png"⟩)).validate linkedDisk = .ok () ∧
      linkedDisk.locate ⟨"a.log"⟩ = .ok ["logs", "a.log"] ∧
      linkedDisk.node? ["logs", "a.log"] = some (.file shortLog) ∧
      (linkedRun (some ⟨"plot.png"⟩)).world.disk.node? ["logs", "a.log"] =
        some (.file shortLog) := by
  have hvalid : (linkedConfig (some ⟨"plot.png"⟩)).validate linkedDisk = .ok () := by decide
  have hlog : linkedDisk.locate ⟨"a.log"⟩ = .ok ["logs", "a.log"] := by decide
  have hfile : linkedDisk.node? ["logs", "a.log"] = some (.file shortLog) := by decide
  refine ⟨hvalid, hlog, hfile, (execute_keeps_log_iff hvalid hlog hfile).2 ?_⟩
  rintro ⟨hreach, -⟩
  cases hreach.output_eq

/-- With its image beside it the log is lost: the link leads the image to the log. The same path is
refused if it is asked for. -/
theorem execute_loses_linked_log :
    (linkedConfig none).validate linkedDisk = .ok () ∧
      (linkedConfig (some (linkedConfig none).resolvedOutput)).validate linkedDisk ≠ .ok () ∧
      linkedDisk.locate ⟨"a.log"⟩ = .ok ["logs", "a.log"] ∧
      linkedDisk.node? ["logs", "a.log"] = some (.file shortLog) ∧
      (linkedRun none).world.disk.node? ["logs", "a.log"] ≠ some (.file shortLog) := by
  have hvalid : (linkedConfig none).validate linkedDisk = .ok () := by decide
  have hlog : linkedDisk.locate ⟨"a.log"⟩ = .ok ["logs", "a.log"] := by decide
  have hfile : linkedDisk.node? ["logs", "a.log"] = some (.file shortLog) := by decide
  have hreach : ReachesLog linkedDisk (linkedConfig none) ["logs", "a.log"] shortLog :=
    ⟨rfl, by decide, by decide⟩
  -- The image is not drawn for this: it is longer than the log.
  have himage : imageOf (linkedConfig none) shortLog ≠ shortLog := by
    intro heq
    have hsize : Png.signature.length ≤ (imageOf (linkedConfig none) shortLog).size :=
      Png.length_signature_le_size_encode _
    rw [heq] at hsize
    exact absurd hsize (by decide)
  refine ⟨hvalid, by decide, hlog, hfile, ?_⟩
  rw [linkedRun, node?_execute_of_reachesLog hvalid hlog hfile hreach]
  simpa using himage

end Run

end LatencyCurve
