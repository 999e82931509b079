import LatencyCurve.Invocation
import LatencyCurve.Proofs.Outcome

/-!
# Exit codes

The help promises an exit code for each cause for which an invocation can end. The causes are stated
here as rules over the arguments, the environment and the file system (`Invocation.EndsBy`), in the
order in which the program goes on: arguments, the log, its latencies, the image. Every invocation
has exactly one cause, and its exit code is that of the cause (`Invocation.EndsBy.exitCode_eq`).

The codes are the promised ones (`Cause.documentedCode`), but for two causes:

* Arguments that are not understood at all have a code of their own, which the help does not list.
* An image that cannot be opened for writing is an error of files only if its directory is missing.
  Everything else that is found out when it is opened, such as a directory in its place, counts as
  an error of rendering.
-/

namespace LatencyCurve

/-! ### Opening an image -/

/-- A path that can be opened for writing has its directory. -/
theorem Chart.hasDirectory_of_target {d : Disk} {p : Path} {l : Location} (h : d.target p = .ok l) :
    HasDirectory d p :=
  missingDirectory?_eq_none_iff.1 (missingDirectory?_of_target h)

/-- An image that cannot be opened for writing is not written. -/
theorem writeImage_error_of_target {d : Disk} {p : Path} {e : FileError} (h : d.target p = .error e)
    (b : Bitmap) : ∃ e, (writeImage d p b).1 = .error e := by
  cases hwritten : (writeImage d p b).1 with
  | error e => exact ⟨e, rfl⟩
  | ok =>
    obtain ⟨-, l, -, -, htarget, -⟩ := writeImage_eq_ok_iff.1 (Prod.ext hwritten rfl)
    rw [h] at htarget
    cases htarget

/-! ### Loading a configuration -/

namespace Options

variable {o : Options} {env : Environment} {d : Disk}

/-- A configuration loads if it can be made from the options and passes. -/
theorem loadConfig_eq_ok_iff {c : Config} :
    o.loadConfig env d = .ok c ↔ o.toConfig env = .ok c ∧ c.validate d = .ok () := by
  rw [loadConfig]
  cases o.toConfig env with
  | error f => simp [Except.bind]
  | ok c' =>
    cases hvalid : c'.validate d with
    | error f =>
      constructor
      · simp [Except.bind, Except.map, hvalid]
      · rintro ⟨⟨⟩, hvalid'⟩
        rw [hvalid] at hvalid'
        cases hvalid'
    | ok =>
      simp only [Except.bind, Except.map, hvalid, Except.ok.injEq]
      constructor
      · rintro rfl
        exact ⟨rfl, hvalid⟩
      · rintro ⟨h, -⟩
        exact h

/-- And otherwise it cannot be made, or does not pass. -/
theorem loadConfig_eq_error_iff {f : Fault} :
    o.loadConfig env d = .error f ↔
      o.toConfig env = .error f ∨ ∃ c, o.toConfig env = .ok c ∧ c.validate d = .error f := by
  rw [loadConfig]
  cases o.toConfig env with
  | error f' => simp [Except.bind]
  | ok c => cases hvalid : c.validate d <;> simp [Except.bind, Except.map, hvalid]

/-- Options that do not make sense have one of two kinds of fault. -/
theorem kind_of_loadConfig {f : Fault} (h : o.loadConfig env d = .error f) :
    f.kind = .config ∨ f.kind = .validation := by
  rcases loadConfig_eq_error_iff.1 h with hconfig | ⟨c, -, hvalid⟩
  · rw [toConfig] at hconfig
    split at hconfig
    · cases hconfig
      exact .inl rfl
    · split at hconfig
      · cases hconfig
        exact .inl rfl
      · cases hconfig
  · refine Config.kind_of_check (c := c) (d := d) ?_
    rw [Config.check, hvalid]
    rfl

end Options

/-! ### Causes -/

/-- What an invocation ends for. -/
inductive Cause where
  /-- All that was asked for is done -/
  | success
  /-- The arguments are not understood -/
  | misunderstood
  /-- The arguments are understood, but do not make sense -/
  | refused
  /-- The log cannot be read -/
  | unreadable
  /-- No line of the log states a latency -/
  | noLatencies
  /-- The directory of the image is missing -/
  | noDirectory
  /-- The image cannot be opened for writing, though it has a directory -/
  | unopened
  /-- The image can be opened for writing, but not be drawn -/
  | notDrawn
deriving DecidableEq, Repr

namespace Cause

/-- The code that the help promises: of success, of invalid arguments, of an error of the input or
output file, of a log without latencies, and of a failed rendering. -/
def documentedCode : Cause → Nat
  | success => 0
  | misunderstood | refused => 1
  | unreadable | noDirectory | unopened => 5
  | noLatencies => 6
  | notDrawn => 7

/-- The code that there is. -/
def exitCode : Cause → Nat
  | misunderstood => 2
  | unopened => 7
  | cause => cause.documentedCode

/-- **Two causes have another code than the one that is promised.** -/
theorem exitCode_eq_documentedCode_iff (cause : Cause) :
    cause.exitCode = cause.documentedCode ↔ cause ≠ misunderstood ∧ cause ≠ unopened := by
  cases cause <;> decide

end Cause

/-! ### What a run ends for -/

namespace Run

/-- `EndsBy w c cause`: a run of a configuration that makes sense ends for this cause. -/
inductive EndsBy (w : World) (c : Config) : Cause → Prop
  /-- The log cannot be read. -/
  | unreadable {e : FileError} (hread : w.disk.read c.input = .error e) : EndsBy w c .unreadable
  /-- It can be read, but no line of it states a latency. -/
  | noLatencies {log : ByteArray} (hread : w.disk.read c.input = .ok log)
      (hlatency : ¬ HasLatency log) : EndsBy w c .noLatencies
  /-- There are latencies, but no directory for the image. -/
  | noDirectory {log : ByteArray} (hread : w.disk.read c.input = .ok log)
      (hlatency : HasLatency log) (hdir : ¬ Chart.HasDirectory w.disk c.resolvedOutput) :
      EndsBy w c .noDirectory
  /-- There is a directory, but the image cannot be opened for writing. -/
  | unopened {log : ByteArray} {e : FileError} (hread : w.disk.read c.input = .ok log)
      (hlatency : HasLatency log) (hdir : Chart.HasDirectory w.disk c.resolvedOutput)
      (htarget : w.disk.target c.resolvedOutput = .error e) : EndsBy w c .unopened
  /-- The image can be opened for writing, but it is not written. -/
  | notDrawn {log : ByteArray} {l : Location} {e : ImageError}
      (hread : w.disk.read c.input = .ok log) (hlatency : HasLatency log)
      (htarget : w.disk.target c.resolvedOutput = .ok l)
      (himage : (writeImage w.disk c.resolvedOutput (pictureOf c log)).1 = .error e) :
      EndsBy w c .notDrawn
  /-- It can be opened for writing, and it is written. -/
  | success {log : ByteArray} {l : Location} (hread : w.disk.read c.input = .ok log)
      (hlatency : HasLatency log) (htarget : w.disk.target c.resolvedOutput = .ok l)
      (himage : (writeImage w.disk c.resolvedOutput (pictureOf c log)).1 = .ok ()) :
      EndsBy w c .success

/-- The exit code of a result. -/
def exitCodeOf (result : Except Fault RunReport) : Nat :=
  (faultKind? result).elim 0 FaultKind.exitCode

/-- Every run has a cause to end. -/
theorem exists_endsBy (w : World) (c : Config) : ∃ cause, EndsBy w c cause := by
  cases hread : w.disk.read c.input with
  | error e => exact ⟨_, .unreadable hread⟩
  | ok log =>
    by_cases hlatency : HasLatency log
    swap
    · exact ⟨_, .noLatencies hread hlatency⟩
    by_cases hdir : Chart.HasDirectory w.disk c.resolvedOutput
    swap
    · exact ⟨_, .noDirectory hread hlatency hdir⟩
    cases htarget : w.disk.target c.resolvedOutput with
    | error e => exact ⟨_, .unopened hread hlatency hdir htarget⟩
    | ok l =>
      cases himage : (writeImage w.disk c.resolvedOutput (pictureOf c log)).1 with
      | error e => exact ⟨_, .notDrawn hread hlatency htarget himage⟩
      | ok => exact ⟨_, .success hread hlatency htarget himage⟩

/-- **The exit code of a run is that of its cause.** -/
theorem EndsBy.exitCode_eq {w : World} {c : Config} {cause : Cause} (h : EndsBy w c cause)
    {result : Except Fault RunReport} (hpasses : Passes w c)
    (hverdict : Verdict w c (faultKind? result)) : exitCodeOf result = cause.exitCode := by
  have hcode {kind : Option FaultKind} (hkind : faultKind? result = kind) :
      exitCodeOf result = kind.elim 0 FaultKind.exitCode := by
    rw [exitCodeOf, hkind]
  cases h with
  | unreadable hread => exact hcode (hverdict.io_iff.2 ⟨hpasses, .inl ⟨_, hread⟩⟩)
  | noLatencies hread hlatency => exact hcode (hverdict.empty_iff.2 ⟨hpasses, _, hread, hlatency⟩)
  | noDirectory hread hlatency hdir =>
    exact hcode (hverdict.io_iff.2 ⟨hpasses, .inr ⟨_, hread, hlatency, hdir⟩⟩)
  | unopened hread hlatency hdir htarget =>
    -- That the image is not written is all that the program finds out.
    exact hcode (hverdict.render_iff.2
      ⟨hpasses, _, hread, hlatency, hdir, writeImage_error_of_target htarget _⟩)
  | notDrawn hread hlatency htarget himage =>
    have hdir := Chart.hasDirectory_of_target htarget
    exact hcode (hverdict.render_iff.2 ⟨hpasses, _, hread, hlatency, hdir, _, himage⟩)
  | success hread hlatency htarget himage =>
    have hdir := Chart.hasDirectory_of_target htarget
    exact hcode (hverdict.success_iff.2 ⟨hpasses, _, hread, hlatency, hdir, himage⟩)

/-- The rules exclude each other. -/
theorem EndsBy.unique {w : World} {c : Config} {cause cause' : Cause} (h : EndsBy w c cause)
    (h' : EndsBy w c cause') : cause = cause' := by
  have hdir {l : Location} (htarget : w.disk.target c.resolvedOutput = .ok l) :
      Chart.HasDirectory w.disk c.resolvedOutput := Chart.hasDirectory_of_target htarget
  -- Of two different rules one asks for a condition that the other denies.
  cases h <;> cases h' <;> simp_all

end Run

/-! ### What an invocation ends for -/

namespace Invocation

/-- `i.EndsBy w cause`: the invocation ends for this cause. -/
inductive EndsBy (i : Invocation) (w : World) : Cause → Prop
  /-- Help or the version is asked for. -/
  | shown {u : Usage} (hparse : CommandLine.parse i.arguments = .error u)
      (hu : u = .help ∨ u = .version) : EndsBy i w .success
  /-- The arguments are not understood. -/
  | misunderstood {u : Usage} (hparse : CommandLine.parse i.arguments = .error u)
      (hhelp : u ≠ .help) (hversion : u ≠ .version) : EndsBy i w .misunderstood
  /-- The help on a topic is asked for. -/
  | topic {o : Options} (hparse : CommandLine.parse i.arguments = .ok o)
      (htopic : o.helpTopic ≠ none) : EndsBy i w .success
  /-- The arguments do not make sense. -/
  | refused {o : Options} {f : Fault} (hparse : CommandLine.parse i.arguments = .ok o)
      (htopic : o.helpTopic = none) (hload : o.loadConfig i.environment w.disk = .error f) :
      EndsBy i w .refused
  /-- They make sense, and there is a run. -/
  | run {o : Options} {c : Config} {cause : Cause}
      (hparse : CommandLine.parse i.arguments = .ok o) (htopic : o.helpTopic = none)
      (hload : o.loadConfig i.environment w.disk = .ok c) (h : Run.EndsBy w c cause) :
      EndsBy i w cause

/-- Every invocation has a cause to end. -/
theorem exists_endsBy (i : Invocation) (w : World) : ∃ cause, i.EndsBy w cause := by
  cases hparse : CommandLine.parse i.arguments with
  | error u =>
    by_cases hhelp : u = .help
    · exact ⟨_, .shown hparse (.inl hhelp)⟩
    by_cases hversion : u = .version
    · exact ⟨_, .shown hparse (.inr hversion)⟩
    exact ⟨_, .misunderstood hparse hhelp hversion⟩
  | ok o =>
    by_cases htopic : o.helpTopic = none
    swap
    · exact ⟨_, .topic hparse htopic⟩
    cases hload : o.loadConfig i.environment w.disk with
    | error f => exact ⟨_, .refused hparse htopic hload⟩
    | ok c =>
      obtain ⟨cause, h⟩ := Run.exists_endsBy w c
      exact ⟨cause, .run hparse htopic hload h⟩

/-- The rules exclude each other. -/
theorem EndsBy.unique {i : Invocation} {w : World} {cause cause' : Cause} (h : i.EndsBy w cause)
    (h' : i.EndsBy w cause') : cause = cause' := by
  cases h with
  | run hparse htopic hload hrun =>
    cases h' with
    | run hparse' htopic' hload' hrun' =>
      obtain rfl := Except.ok.inj (hparse.symm.trans hparse')
      obtain rfl := Except.ok.inj (hload.symm.trans hload')
      exact hrun.unique hrun'
    | shown | misunderstood | topic | refused => simp_all
  | shown | misunderstood | topic | refused => cases h' <;> simp_all

/-! ### The exit code -/

theorem exitCode_runConfig (i : Invocation) (k : Circumstances) (stamp : Stamp) (sessionId : String)
    (w : World) (o : Options) (c : Config) :
    (i.runConfig k stamp sessionId w o c).exitCode =
      Run.exitCodeOf ((App.ofConfig c sessionId).run k w).result := by
  rw [runConfig]
  cases ((App.ofConfig c sessionId).run k w).result with
  | ok r => rfl
  | error f => rfl

/-- **The exit code of an invocation is that of its cause.** -/
theorem EndsBy.exitCode_eq {i : Invocation} {w : World} {cause : Cause} (h : i.EndsBy w cause)
    (k : Circumstances) (stamp : Stamp) (sessionId : String) :
    (i.perform k stamp sessionId w).exitCode = cause.exitCode := by
  cases h with
  | shown hparse hu =>
    rw [perform, hparse]
    rcases hu with rfl | rfl
    · rfl
    · rfl
  | @misunderstood u hparse hhelp hversion =>
    rw [perform, hparse]
    cases u with
    | help => exact absurd rfl hhelp
    | version => exact absurd rfl hversion
    | badValue | missingValue | unknown | repeated | extraValue => rfl
  | topic hparse htopic =>
    rw [perform, hparse]
    dsimp only
    rw [if_pos (Option.isSome_iff_ne_none.2 htopic)]
    rfl
  | refused hparse htopic hload =>
    rw [perform, hparse]
    dsimp only
    rw [htopic, hload]
    rcases Options.kind_of_loadConfig hload with hkind | hkind
    · show FaultKind.exitCode _ = _
      rw [hkind]
      rfl
    · show FaultKind.exitCode _ = _
      rw [hkind]
      rfl
  | run hparse htopic hload h =>
    rw [perform, hparse]
    dsimp only
    rw [htopic, hload]
    show (i.runConfig k stamp sessionId w _ _).exitCode = _
    rw [exitCode_runConfig]
    have hvalid := (Options.loadConfig_eq_ok_iff.1 hload).2
    exact h.exitCode_eq ⟨_, Config.check_eq_ok_iff.2 ⟨hvalid, rfl⟩⟩ (Run.course_execute ..).verdict

/-- **The exit code of every invocation**, for all arguments, in every environment and whatever the
files are: an invocation ends for one cause, and its code is that of the cause. It is the code that
the help promises unless the arguments are not understood, or the image has a directory but cannot
be opened for writing. -/
theorem exit_code_of_invocation (i : Invocation) (k : Circumstances) (stamp : Stamp)
    (sessionId : String) (w : World) :
    ∃ cause, (∀ cause', i.EndsBy w cause' ↔ cause' = cause) ∧
      (i.perform k stamp sessionId w).exitCode = cause.exitCode ∧
      ((i.perform k stamp sessionId w).exitCode = cause.documentedCode ↔
        cause ≠ .misunderstood ∧ cause ≠ .unopened) := by
  obtain ⟨cause, h⟩ := exists_endsBy i w
  have hcode := h.exitCode_eq k stamp sessionId
  refine ⟨cause, fun cause' ↦ ⟨fun h' ↦ h'.unique h, ?_⟩, hcode, ?_⟩
  · rintro rfl
    exact h
  · rw [hcode]
    exact cause.exitCode_eq_documentedCode_iff

/-- A file system with a log and, in the place of an image, a directory. -/
def blockedDisk : Disk where
  nodes := [(["a.log"], .file Run.shortLog), (["out.png"], .directory)]
  current := []

/-- A directory instead of a log: the code is the promised one. -/
theorem exit_code_of_directory :
    let k : Circumstances := ⟨"operation", fun _ ↦ .ofNanos 0, "build"⟩
    let stamp : Stamp := ⟨"12:00:00.000", "2024-01-01T12:00:00Z"⟩
    let w : World := ⟨blockedDisk, none⟩
    let i : Invocation := ⟨["out.png"], ⟨[]⟩, false⟩
    i.EndsBy w .unreadable ∧ (i.perform k stamp "session" w).exitCode = 5 ∧
      Cause.unreadable.documentedCode = 5 := by
  intro k stamp w i
  have h : i.EndsBy w .unreadable := by
    refine .run (o := { Options.none with input := some ⟨"out.png"⟩ })
      (c := Config.forInput ⟨"out.png"⟩) ?_ rfl ?_ (.unreadable (e := .isDirectory) rfl)
    · decide
    · decide
  obtain ⟨cause, hcause, hcode, -⟩ := exit_code_of_invocation i k stamp "session" w
  obtain rfl := (hcause _).1 h
  exact ⟨h, hcode, rfl⟩

/-- A height that is no number, and an image in whose place there is a directory. -/
theorem exit_codes_not_documented :
    let k : Circumstances := ⟨"operation", fun _ ↦ .ofNanos 0, "build"⟩
    let stamp : Stamp := ⟨"12:00:00.000", "2024-01-01T12:00:00Z"⟩
    let w : World := ⟨blockedDisk, none⟩
    let i : Invocation := ⟨["a.log", "--height", "abc"], ⟨[]⟩, false⟩
    let i' : Invocation := ⟨["a.log", "-o", "out.png"], ⟨[]⟩, false⟩
    i.EndsBy w .misunderstood ∧ Cause.misunderstood.documentedCode = 1 ∧
      (i.perform k stamp "session" w).exitCode = 2 ∧
      i'.EndsBy w .unopened ∧ Cause.unopened.documentedCode = 5 ∧
      (i'.perform k stamp "session" w).exitCode = 7 := by
  intro k stamp w i i'
  have h : i.EndsBy w .misunderstood := by
    refine .misunderstood (u := .badValue .height "abc" "Invalid pixel size: abc") ?_ nofun nofun
    decide
  have hread : w.disk.read ⟨"a.log"⟩ = .ok Run.shortLog := rfl
  have hlatency : Run.HasLatency Run.shortLog :=
    Run.measurements_extractionOf_ne_nil_iff.1 Run.measurements_shortLog_ne
  have hdir : Chart.HasDirectory w.disk ⟨"out.png"⟩ := by
    rw [← Chart.missingDirectory?_eq_none_iff]
    decide
  have htarget : w.disk.target ⟨"out.png"⟩ = .error .isDirectory := rfl
  have h' : i'.EndsBy w .unopened := by
    refine .run (o := { Options.none with input := some ⟨"a.log"⟩, output := some ⟨"out.png"⟩ })
      (c := { Config.forInput ⟨"a.log"⟩ with output := some ⟨"out.png"⟩ }) ?_ rfl ?_
      (.unopened hread hlatency hdir htarget)
    · decide
    · decide
  exact ⟨h, rfl, h.exitCode_eq k stamp "session", h', rfl, h'.exitCode_eq k stamp "session"⟩

end Invocation

end LatencyCurve
