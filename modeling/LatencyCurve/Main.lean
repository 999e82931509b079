import LatencyCurve.Invocation
import LatencyCurve.Journal.Clock
import LatencyCurve.Journal.Identifier
import Std.Time.DateTime.Timestamp

/-!
# The command

The outermost layer. It gathers what an invocation depends on, which is the environment, the part of
the file system that its paths lead through, the time and some random bytes; has the invocation
performed, which is a function; and then writes the files that have come of it and prints its two
texts.
-/

namespace LatencyCurve.Command

/-! ### The file system -/

/-- The location that an absolute path without dots and links has. -/
def locationOf (p : Path) : Location :=
  p.segments.filter (!Path.isIdle ·)

/-- The absolute path of a location. -/
def textOf (l : Location) : String :=
  "/" ++ String.intercalate "/" l

/-- Adds to a file system what the segments of a path lead through: directories, files, and for
every link that is followed a link to where it leads in the end. The part of the path before the
segments leads to the location given with it. -/
def mountSegments (d : Disk) (here : Location) (before : String) : List String → IO Disk
  | [] => return d
  | s :: rest => do
    if Path.isIdle s then mountSegments d here (before ++ s ++ "/") rest
    else
      let text := before ++ s
      let place := System.mkFilePath [text]
      if !(← place.pathExists) then return d
      let real ← IO.FS.realPath place
      let there := locationOf ⟨real.toString⟩
      let written := if s = ".." then there else here ++ [s]
      let d := if written = there then d else d.put written (.link ⟨real.toString⟩)
      if ← place.isDir then mountSegments (d.makeDirectories there) there (text ++ "/") rest
      else
        let content ← IO.FS.readBinFile place
        return (d.makeDirectories there.dropLast).put there (.file content)

/-- Adds to a file system what a path leads through. -/
def mountPath (d : Disk) (p : Path) : IO Disk :=
  if p.holdsZero then return d
  else mountSegments d (Disk.start d.current p) "" p.segments

/-- The paths that an invocation may ask for. -/
def pathsOf (i : Invocation) : List Path :=
  match CommandLine.parse i.arguments with
  | .error _ => []
  | .ok o =>
    match o.toConfig i.environment with
    | .error _ => []
    | .ok c =>
      [c.input, c.resolvedOutput, Disk.directoryOf c.resolvedOutput] ++ c.font.toList ++ fontPlaces

/-- The part of the file system that an invocation may ask for. -/
def mount (i : Invocation) : IO Disk := do
  let current := locationOf ⟨(← IO.currentDir).toString⟩
  (pathsOf i).foldlM mountPath (Disk.empty current)

/-! ### What differs from run to run -/

/-- The variables of the environment that the program looks at. -/
def environment : IO Environment := do
  let values ← Environment.names.mapM fun name ↦ return (name, ← IO.getEnv name)
  return ⟨values.filterMap fun v ↦ v.2.map (v.1, ·)⟩

/-- The time as a stamp. -/
def stampNow : IO Stamp := do
  let now ← Std.Time.Timestamp.now
  return .ofNanos now.toNanosecondsSinceUnixEpoch.toInt.toNat

/-- An identifier that nobody else has. -/
def freshId : IO String := do
  return Identifier.ofBytes (← IO.getRandomBytes 16).toList

/-- A value and how long its computation took. -/
def timed {α : Type} (compute : Unit → α) : IO (α × Lap) := do
  let started ← IO.monoNanosNow
  let value ← IO.lazyPure compute
  return (value, .ofNanos ((← IO.monoNanosNow) - started))

/-- How long each phase of a run takes. -/
def measure (w : World) (c : Config) : IO (String → Lap) := do
  let (x, extracting) ← timed fun _ ↦ Run.readLog w.disk Pattern.standardOrder c.input
  let (a, analysing) ← timed fun _ ↦ x.bind fun x ↦ Run.analyse x.series
  let (_, drawing) ← timed fun _ ↦
    a.toOption.map fun a ↦ Chart.render w.disk w.registry (.ofConfig c) a.1 c.resolvedOutput
  return fun phase ↦
    if phase = Run.extractPhase then extracting
    else if phase = Run.curvePhase then analysing
    else drawing

/-- How long each phase of an invocation takes, which only a debugging run tells. -/
def lapsOf (i : Invocation) (w : World) : IO (String → Lap) :=
  match CommandLine.parse i.arguments with
  | .error _ => return fun _ ↦ .ofNanos 0
  | .ok o =>
    match o.loadConfig i.environment w.disk with
    | .error _ => return fun _ ↦ .ofNanos 0
    | .ok c => if c.debug then measure w c else return fun _ ↦ .ofNanos 0

/-- What the program was built from. -/
def build : String := "unknown, built unknown"

/-! ### Performing -/

/-- Makes what an invocation has led to real: files first, then the two texts. -/
def realize (before : Disk) (e : Ending) : IO UInt32 := do
  for (l, content) in e.world.disk.filesSince before do
    IO.FS.writeBinFile (textOf l) content
  let stderr ← IO.getStderr
  for line in e.errors do
    stderr.putStrLn line
  IO.print e.output
  return e.exitCode.toUInt32

/-- Performs the invocation with some arguments. -/
def perform (arguments : List String) : IO UInt32 := do
  let i : Invocation := ⟨arguments, ← environment, ← (← IO.getStdout).isTty⟩
  let w : World := ⟨← mount i, none⟩
  let k : Circumstances := ⟨← freshId, ← lapsOf i w, build⟩
  realize w.disk (i.perform k (← stampNow) (← freshId) w)

end LatencyCurve.Command

/-- Performs the invocation; what the system refuses unexpectedly is reported as a fault of files.
-/
def main (arguments : List String) : IO UInt32 := do
  try LatencyCurve.Command.perform arguments
  catch e =>
    (← IO.getStderr).putStrLn (toString e)
    return LatencyCurve.FaultKind.io.exitCode.toUInt32
