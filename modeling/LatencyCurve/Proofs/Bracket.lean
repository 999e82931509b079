import LatencyCurve.Invocation
import LatencyCurve.Proofs.Course
import LatencyCurve.Proofs.Fields

/-!
# What the journal tells about a run

A run is one operation, and the journal tells about it in a bracket: an entry about its start, one
about its end, and between them whatever its steps have to say and, if it fails, one entry about the
fault. All of them carry the operation, the session and the input (`App.run_is_bracketed`).

This has three parts.

* The entries about the steps name no operation and no input of their own, so the session supplies
  both, and none of them is as severe as a fault (`Run.Course.ofStep`). This is seen by looking at
  every course of a run, since it can stop in many places.
* A session in which the operation has been started supplies what is missing
  (`Entry.ofRun_complete`).
* A run leaves the session as it was (`App.session_run`), so nothing depends on how an application
  has been used before (`App.session_after`).
-/

namespace LatencyCurve

/-- The name of the field that holds the input of a run. -/
def inputField : String := "input"

/-! ### Entries about a step -/

/-- An entry as one is made about a step of a run: it is left to the session to say which operation
and which input it is about, and it is not about a fault. -/
structure Entry.OfStep (e : Entry) : Prop where
  /-- No operation is named. -/
  correlation_eq : e.correlation = none
  /-- No input is named. -/
  lookup_input : e.fields.lookup inputField = none
  /-- There is no fault. -/
  level_lt : e.level.reaches .error = false

namespace Entry.OfStep

variable {e : Entry}

theorem of {level : Level} (h : level.reaches .error = false) (component message : String) :
    (Entry.of level component message).OfStep :=
  ⟨rfl, rfl, h⟩

theorem withField (h : e.OfStep) {key : String} (hkey : inputField ≠ key) (value : Json) :
    (e.withField key value).OfStep := by
  refine ⟨h.correlation_eq, ?_, h.level_lt⟩
  rw [Entry.withField, Json.lookup_insertField, if_neg hkey]
  exact h.lookup_input

theorem withSite (h : e.OfStep) (site : CallSite) : (e.withSite site).OfStep :=
  ⟨h.correlation_eq, h.lookup_input, h.level_lt⟩

theorem startEntry (l : Logger) (operation : String) : (Session.startEntry l operation).OfStep :=
  (of (by decide) _ _).withField (by decide) _

theorem finishEntry (l : Logger) (operation : String) (success : Bool) :
    (Session.finishEntry l operation success).OfStep := by
  refine ((of ?_ _ _).withField (by decide) _).withField (by decide) _
  cases success <;> rfl

theorem timerEntry (t : Timers) (l : Logger) (phase : String) (lap : Lap) :
    (t.finishEntry l phase lap).OfStep := by
  rw [Timers.finishEntry]
  split
  · exact ((of (by decide) _ _).withField (by decide) _).withField (by decide) _
  · exact of (by decide) _ _

theorem withExtraction (h : e.OfStep) (x : Extraction Float) : (e.withExtraction x).OfStep :=
  ((((h.withField (by decide) _).withField (by decide) _).withField (by decide) _).withField
    (by decide) _).withField (by decide) _

theorem extracted (l : Logger) (x : Extraction Float) : (Events.extracted l x).OfStep :=
  (of rfl _ _).withExtraction x

theorem drawn (l : Logger) (o : ChartOutcome) : (Events.drawn l o).OfStep :=
  (((of rfl _ _).withField (by decide) _).withField (by decide) _).withField (by decide) _

theorem reduced (l : Logger) (component reason : String) :
    (Events.reduced l component reason none).OfStep :=
  (of rfl _ _).withField (by decide) _

end Entry.OfStep

/-- A remark about a step of a run: a notice, or an entry as one is made about a step. -/
def Remark.OfStep : Remark → Prop
  | notice _ => True
  | entry _ e => e.OfStep

namespace Run

section Said

variable (k : Circumstances) (t : Timers) (c : Config) (notices : List Notice)
  (x : Extraction Float)

theorem ofStep_saidToRead : ∀ r ∈ saidToRead k c notices, r.OfStep := by
  have hversion : (versionRemark k).OfStep := (Entry.OfStep.of (by decide) _ _).withSite site
  have hnotices : ∀ r ∈ notices.map Remark.notice, r.OfStep :=
    List.forall_mem_map.2 fun _ _ ↦ trivial
  have hconfig : ∀ r ∈ configRemarks c, r.OfStep :=
    List.forall_mem_map.2 fun _ _ ↦ (Entry.OfStep.of (by decide) _ _).withSite site
  have hstarted : (phaseStarted c extractPhase).OfStep := .of (by decide) _ _
  simp only [saidToRead, opening, List.cons_append, List.forall_mem_cons, List.forall_mem_append]
  exact ⟨hversion, ⟨hnotices, hconfig⟩, hstarted, List.forall_mem_nil _⟩

theorem ofStep_saidToAnalyse : ∀ r ∈ saidToAnalyse k t c notices x, r.OfStep := by
  have hended : (phaseEnded k c (t.start extractPhase) extractPhase).OfStep := .timerEntry ..
  have hextracted : (extractedRemark c x).OfStep := .extracted ..
  simp only [saidToAnalyse, List.forall_mem_cons, List.forall_mem_append]
  exact ⟨ofStep_saidToRead k c notices, hended, hextracted, List.forall_mem_nil _⟩

theorem ofStep_saidToDraw : ∀ r ∈ saidToDraw k t c notices x, r.OfStep := by
  have hstarted (phase : String) : (phaseStarted c phase).OfStep := .of (by decide) _ _
  have hended : (phaseEnded k c ((timersToAnalyse t).start curvePhase) curvePhase).OfStep :=
    .timerEntry ..
  simp only [saidToDraw, List.forall_mem_append, List.forall_mem_singleton]
  exact ⟨⟨⟨ofStep_saidToAnalyse k t c notices x, hstarted curvePhase⟩, hended⟩, hstarted drawPhase⟩

theorem ofStep_saidToEnd (o : ChartOutcome) : ∀ r ∈ saidToEnd k t c notices x o, r.OfStep := by
  have hended : (phaseEnded k c (timersToDraw t) drawPhase).OfStep := .timerEntry ..
  have hdrawn : ∀ r ∈ drawnRemarks c o, r.OfStep := by
    refine List.forall_mem_cons.2 ⟨.drawn .., ?_⟩
    cases o.fontWarning with
    | none => exact List.forall_mem_nil _
    | some reason => exact List.forall_mem_singleton.2 (.reduced ..)
  simp only [saidToEnd, List.forall_mem_append, List.forall_mem_cons]
  exact ⟨ofStep_saidToDraw k t c notices x, hended, hdrawn⟩

end Said

/-- **Wherever a run stops, all that has been said is about its steps.** -/
theorem Course.ofStep {k : Circumstances} {w : World} {t : Timers} {c : Config} {x : Execution}
    (hx : Course k w t c x) : ∀ r ∈ x.remarks, r.OfStep := by
  cases hx with
  | refused => exact List.forall_mem_singleton.2 ((Entry.OfStep.of rfl _ _).withSite site)
  | unreadable => exact ofStep_saidToRead k c _
  | empty => exact ofStep_saidToAnalyse k t c _ _
  | noDirectory | notDrawn => exact ofStep_saidToDraw k t c _ _
  | drawn => exact ofStep_saidToEnd k t c _ _ _

end Run

/-! ### Entries of a run -/

/-- An entry that tells which run it is from. -/
structure Entry.OfRun (session : String) (input : Path) (operation : String) (e : Entry) :
    Prop where
  /-- It carries the operation of the run. -/
  correlation_eq : e.correlation = some operation
  /-- It has the id of the session. -/
  lookup_session : e.fields.lookup Session.idField = some (.str session)
  /-- It has the input. -/
  lookup_input : e.fields.lookup inputField = some (.str input.text)

/-- The session of an application whose runs have an input. -/
def Session.ofInput (session : String) (input : Path) : Session :=
  ⟨some session, none, [(inputField, .str input.text)]⟩

/-- An entry that names no operation but that of the run, and no input, is from the run when it is
complete. -/
theorem Entry.ofRun_complete {e : Entry} {operation : String}
    (hcorrelation : ∀ id ∈ e.correlation, id = operation)
    (hinput : e.fields.lookup inputField = none) (session : String) (input : Path) (l : Logger) :
    let s := (Session.ofInput session input).begin operation
    (s.complete l e).OfRun session input operation := by
  intro s
  refine ⟨?_, ?_, ?_⟩
  · show (e.correlation <|> some operation) = some operation
    cases h : e.correlation with
    | none => rfl
    | some id => exact congrArg some (hcorrelation id h)
  · show (s.completeFields e.fields).lookup Session.idField = _
    exact Session.lookup_idField_completeFields _ rfl
  · show (s.completeFields e.fields).lookup inputField = _
    rw [Session.lookup_completeFields_of_ne _ (by decide), hinput]
    exact Json.lookup_cons inputField inputField _ []

theorem Entry.OfStep.ofRun_complete {e : Entry} (h : e.OfStep) (session : String) (input : Path)
    (operation : String) (l : Logger) :
    let s := (Session.ofInput session input).begin operation
    (s.complete l e).OfRun session input operation :=
  Entry.ofRun_complete (by simp [h.correlation_eq]) h.lookup_input session input l

namespace Event

/-- The entry that an event is, if it is one. -/
def entry? : Event → Option Entry
  | notice _ => none
  | entry _ e => some e

/-- The entries among some events, written or not. -/
def entries (events : List Event) : List Entry :=
  events.filterMap entry?

theorem entries_append (es es' : List Event) : entries (es ++ es') = entries es ++ entries es' :=
  List.filterMap_append

/-- The entries that a session makes of some remarks. -/
theorem mem_entries_map_eventOf {c : Config} {s : Session} {remarks : List Remark} {e : Entry} :
    e ∈ entries (remarks.map (App.eventOf c s)) ↔
      ∃ source e', .entry source e' ∈ remarks ∧ s.complete (source.logger c) e' = e := by
  rw [entries, List.filterMap_map, List.mem_filterMap]
  constructor
  · rintro ⟨remark, hremark, he⟩
    cases remark with
    | notice => cases he
    | entry source e' => exact ⟨source, e', hremark, Option.some.inj he⟩
  · rintro ⟨source, e', hremark, he⟩
    exact ⟨_, hremark, congrArg some he⟩

end Event

/-! ### Applications -/

/-- What an application can be used for. -/
inductive Use where
  /-- A run -/
  | run (k : Circumstances) (w : World)
  /-- The steps of a run, without the bracket -/
  | execute (k : Circumstances) (w : World)

namespace App

/-- An application after a use. -/
def afterUse (a : App) : Use → App
  | .run k w => (a.run k w).app
  | .execute k w => { a with timers := (Run.execute k w a.timers a.config).timers }

/-- An application after some uses. -/
def after (a : App) (uses : List Use) : App :=
  uses.foldl afterUse a

/-- Starting and ending an operation leaves nothing behind. -/
theorem session_run (a : App) (k : Circumstances) (w : World) :
    (a.run k w).app.session = { a.session with operation := none } := by
  show (a.session.begin k.operation).clear k.operation = _
  rw [Session.clear, Session.begin, if_pos rfl]

theorem session_after {a : App} (h : a.session.operation = none) (uses : List Use) :
    (a.after uses).session = a.session ∧ (a.after uses).config = a.config := by
  induction uses generalizing a with
  | nil => exact ⟨rfl, rfl⟩
  | cons use uses ih =>
    have hsession : (a.afterUse use).session = a.session := by
      cases use with
      | run k w => rw [afterUse, session_run, ← h]
      | execute k w => rfl
    have hconfig : (a.afterUse use).config = a.config := by cases use <;> rfl
    obtain ⟨hsession', hconfig'⟩ := ih (hsession ▸ h)
    exact ⟨hsession'.trans hsession, hconfig'.trans hconfig⟩

end App

/-! ### What a bracket is -/

/-- What the entries of a run tell about it. -/
structure Bracketed (session : String) (input : Path) (operation : String)
    (result : Except Fault RunReport) (entries : List Entry) : Prop where
  /-- All of them are from the run. -/
  ofRun : ∀ e ∈ entries, e.OfRun session input operation
  /-- The first tells about its start, and the last about its end. -/
  ends : ∃ first inner last, entries = first :: inner ++ [last] ∧
    first.message = "plot started" ∧
    last.message =
      match result with
      | .ok _ => "plot finished"
      | .error _ => "plot failed"
  /-- If it succeeds, none tells about a fault. -/
  of_ok : ∀ r, result = .ok r → entries.filter (·.level.reaches .error) = []
  /-- If it fails, exactly one tells about a fault, and about this one. -/
  of_error : ∀ f, result = .error f →
    ∃ e, entries.filter (·.level.reaches .error) = [e] ∧ e.level = .error ∧
      e.fields.lookup "error_category" = some (.str f.kind.category) ∧
      e.fields.lookup "exit_code" = some (.nat f.kind.exitCode)

namespace Events

/-- The fields of the entry about a fault. -/
theorem lookup_failed (l : Logger) (f : Fault) (step correlation : Option String) (key : String) :
    (failed l f step correlation).fields.lookup key =
      if key = "exit_code" then some (.nat f.kind.exitCode)
      else if key = "error_category" then some (.str f.kind.category) else none := by
  show (Json.insertField "exit_code" _ (Json.insertField "error_category" _ [])).lookup key = _
  rw [Json.lookup_insertField, Json.lookup_insertField]
  rfl

/-- A session changes none of them. -/
theorem lookup_complete_failed (s : Session) (l : Logger) (f : Fault)
    (step correlation : Option String) :
    (s.complete l (failed l f step correlation)).fields.lookup "error_category" =
        some (.str f.kind.category) ∧
      (s.complete l (failed l f step correlation)).fields.lookup "exit_code" =
        some (.nat f.kind.exitCode) := by
  have hown {key : String} {value : Json} (hkey : key ≠ Session.idField)
      (h : (failed l f step correlation).fields.lookup key = some value) :
      (s.complete l (failed l f step correlation)).fields.lookup key = some value := by
    show (s.completeFields _).lookup key = _
    rw [Session.lookup_completeFields_of_ne _ hkey, h]
    rfl
  refine ⟨hown (by decide) ?_, hown (by decide) ?_⟩
  · rw [lookup_failed, if_neg (by decide), if_pos rfl]
  · rw [lookup_failed, if_pos rfl]

end Events

namespace App

/-! ### The parts of the bracket -/

section Parts

variable (a : App) (k : Circumstances) (w : World)

/-- The session while a run is under way. -/
def sessionOf : Session :=
  a.session.begin k.operation

/-- The entry about the start of a run. -/
def firstEntry : Entry :=
  let l := Source.app.logger a.config
  (a.sessionOf k).complete l (Session.startEntry l operationName)

/-- The entries about its steps. -/
def stepEntries : List Entry :=
  Event.entries ((Run.execute k w a.timers a.config).remarks.map
    (eventOf a.config (a.sessionOf k)))

/-- The entries about its fault. -/
def faultEntries : List Entry :=
  Event.entries ((failureRemarks a.config k.operation (a.run k w).result).map
    (eventOf a.config (a.sessionOf k)))

/-- The entry about its end. -/
def lastEntry : Entry :=
  let l := Source.app.logger a.config
  (a.sessionOf k).complete l (Session.finishEntry l operationName (succeeded (a.run k w).result))

theorem entries_run : Event.entries (a.run k w).events =
    a.firstEntry k :: (a.stepEntries k w ++ a.faultEntries k w) ++ [a.lastEntry k w] := by
  rw [run]
  dsimp only
  rw [List.map_append, Event.entries_append, Event.entries_append, Event.entries_append]
  rfl

/-- Only the entry about a fault is as severe as that. -/
theorem filter_entries_run : (Event.entries (a.run k w).events).filter (·.level.reaches .error) =
    (a.faultEntries k w).filter (·.level.reaches .error) := by
  have hfirst : (a.firstEntry k).level.reaches .error = false := by rfl
  have hlast : (a.lastEntry k w).level.reaches .error = false := by
    rw [lastEntry]
    cases (a.run k w).result <;> rfl
  have hsteps : (a.stepEntries k w).filter (·.level.reaches .error) = [] := by
    rw [List.filter_eq_nil_iff]
    intro e he
    obtain ⟨source, e', hremark, rfl⟩ := Event.mem_entries_map_eventOf.1 he
    have hstep : e'.OfStep := (Run.course_execute k w a.timers a.config).ofStep _ hremark
    exact Bool.eq_false_iff.1 hstep.level_lt
  rw [entries_run]
  simp [hfirst, hlast, hsteps]

theorem message_lastEntry : (a.lastEntry k w).message =
    match (a.run k w).result with
    | .ok _ => "plot finished"
    | .error _ => "plot failed" := by
  rw [lastEntry]
  cases (a.run k w).result <;> rfl

variable {a k w}

theorem faultEntries_of_ok {r : RunReport} (h : (a.run k w).result = .ok r) :
    a.faultEntries k w = [] := by
  rw [faultEntries, h]
  rfl

theorem faultEntries_of_error {f : Fault} (h : (a.run k w).result = .error f) :
    a.faultEntries k w =
      let l := Source.failures.logger a.config
      [(a.sessionOf k).complete l
        (Events.failed l f (some "Plotting failed") (some k.operation))] := by
  rw [faultEntries, h]
  rfl

end Parts

/-! ### The bracket -/

theorem ofRun_entries {a : App} {session : String} {input : Path}
    (hsession : a.session = .ofInput session input) (k : Circumstances) (w : World) :
    ∀ e ∈ Event.entries (a.run k w).events, e.OfRun session input k.operation := by
  have hcomplete {e : Entry} (l : Logger) (h : e.OfStep) :
      ((a.sessionOf k).complete l e).OfRun session input k.operation := by
    rw [sessionOf, hsession]
    exact h.ofRun_complete session input k.operation l
  simp only [entries_run, List.cons_append, List.forall_mem_cons, List.forall_mem_append]
  refine ⟨hcomplete _ (.startEntry _ _), ⟨fun e he ↦ ?_, fun e he ↦ ?_⟩,
    hcomplete _ (.finishEntry _ _ _), List.forall_mem_nil _⟩
  · obtain ⟨source, e', hremark, rfl⟩ := Event.mem_entries_map_eventOf.1 he
    exact hcomplete _ ((Run.course_execute k w a.timers a.config).ofStep _ hremark)
  · cases hresult : (a.run k w).result with
    | ok r => rw [faultEntries_of_ok hresult] at he; cases he
    | error f =>
      rw [faultEntries_of_error hresult, List.mem_singleton] at he
      rw [he, sessionOf, hsession]
      refine Entry.ofRun_complete ?_ ?_ session input _
      · rintro id ⟨⟩
        rfl
      · rw [Events.lookup_failed, if_neg (by decide), if_neg (by decide)]

theorem bracketed_run {a : App} {session : String} {input : Path}
    (hsession : a.session = .ofInput session input) (k : Circumstances) (w : World) :
    Bracketed session input k.operation (a.run k w).result
      (Event.entries (a.run k w).events) where
  ofRun := ofRun_entries hsession k w
  ends := ⟨_, _, _, a.entries_run k w, rfl, a.message_lastEntry k w⟩
  of_ok r hr := by rw [filter_entries_run, faultEntries_of_ok hr]; rfl
  of_error f hf := by
    rw [filter_entries_run, faultEntries_of_error hf]
    exact ⟨_, rfl, rfl, Events.lookup_complete_failed ..⟩

/-- **The journal tells about every run in a bracket.** However an application has been used before,
all entries of its next run carry the operation of that run, the session and the input; the first
tells about the start and the last about the end; and there is one about a fault exactly if the run
fails, with the exit code that the process ends with. Afterwards no operation is running. -/
theorem run_is_bracketed (c : Config) (session : String) (uses : List Use) (k : Circumstances)
    (w : World) :
    let a := (ofConfig c session).after uses
    Bracketed session c.input k.operation (a.run k w).result
        (Event.entries (a.run k w).events) ∧
      (a.run k w).app.session.operation = none ∧
      ∀ (i : Invocation) (o : Options) (stamp : Stamp) (f : Fault),
        CommandLine.parse i.arguments = .ok o → o.helpTopic = none →
        o.loadConfig i.environment w.disk = .ok c →
        ((ofConfig c session).run k w).result = .error f →
        (i.perform k stamp session w).exitCode = f.kind.exitCode := by
  intro a
  obtain ⟨hsession, -⟩ := session_after (a := ofConfig c session) rfl uses
  refine ⟨bracketed_run hsession k w, ?_, ?_⟩
  · rw [session_run]
  · intro i o stamp f hparse htopic hload hf
    rw [Invocation.perform, hparse]
    dsimp only
    rw [htopic, hload]
    show (i.runConfig k stamp session w o c).exitCode = f.kind.exitCode
    rw [Invocation.runConfig, hf]
    rfl

/-- A log without lines. -/
def emptyLog : ByteArray := Bytes.ofList []

/-- A file system with nothing in it but that log. -/
def emptyLogDisk : Disk where
  nodes := [(["a.log"], .file emptyLog)]
  current := []

/-- No run on it succeeds. -/
theorem result_run_emptyLog {a : App} (ha : a.config = Config.forInput ⟨"a.log"⟩)
    (k : Circumstances) :
    (a.run k ⟨emptyLogDisk, none⟩).result =
      .error (Run.noLatencies ⟨"a.log"⟩ (Run.extractionOf emptyLog)) := by
  have hvalid : (Config.forInput ⟨"a.log"⟩).validate emptyLogDisk = .ok () := by decide
  have hread : emptyLogDisk.read ⟨"a.log"⟩ = .ok emptyLog := by rfl
  have hempty : (Run.extractionOf emptyLog).series.measurements = [] := by decide
  have hcourse := Run.Course.empty (k := k) (w := ⟨emptyLogDisk, none⟩) (t := a.timers)
    (Config.check_eq_ok_iff.2 ⟨hvalid, rfl⟩) hread hempty
  show (Run.execute k _ a.timers a.config).result = _
  rw [ha, ← hcourse.eq_execute]
  rfl

/-- The second of two runs on an empty log: the exit code that is told is the one of the process. -/
theorem bracket_of_failing_run :
    let w : World := ⟨emptyLogDisk, none⟩
    let c := Config.forInput ⟨"a.log"⟩
    let i : Invocation := ⟨["a.log"], ⟨[]⟩, false⟩
    let o := { Options.none with input := some ⟨"a.log"⟩ }
    let k (id : String) : Circumstances := ⟨id, fun _ ↦ .ofNanos 0, "build"⟩
    let x := ((ofConfig c "session").after [.run (k "first") w]).run (k "second") w
    CommandLine.parse i.arguments = .ok o ∧ o.helpTopic = none ∧
      o.loadConfig i.environment w.disk = .ok c ∧
      Bracketed "session" c.input "second" x.result (Event.entries x.events) ∧
      x.app.session.operation = none ∧
      (i.perform (k "second") ⟨"12:00:00.000", "2024-01-01T12:00:00Z"⟩ "session" w).exitCode =
        FaultKind.empty.exitCode ∧
      ∃ e, (Event.entries x.events).filter (·.level.reaches .error) = [e] ∧
        e.fields.lookup "exit_code" = some (.nat FaultKind.empty.exitCode) := by
  intro w c i o k x
  have hparse : CommandLine.parse i.arguments = .ok o := by decide
  have hload : o.loadConfig i.environment w.disk = .ok c := by decide
  have hfirst : ((ofConfig c "session").run (k "second") w).result = .error _ :=
    result_run_emptyLog rfl _
  have hsecond : x.result = .error _ :=
    result_run_emptyLog (session_after (a := ofConfig c "session") rfl _).2 _
  obtain ⟨hbracket, hrest, hexit⟩ :=
    run_is_bracketed c "session" [.run (k "first") w] (k "second") w
  obtain ⟨e, he, -, -, hcode⟩ := hbracket.of_error _ hsecond
  exact ⟨hparse, rfl, hload, hbracket, hrest, hexit i o _ _ hparse rfl hload hfirst, e, he, hcode⟩

end App

end LatencyCurve
