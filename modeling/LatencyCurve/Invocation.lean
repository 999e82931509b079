import LatencyCurve.Run

/-!
# Invocations

What the command does for its arguments: print help, print the version, complain about an argument,
or run. Every way it can end has an exit code and two texts, for the standard output and for the
standard error output.
-/

namespace LatencyCurve

/-- What an invocation is given. -/
structure Invocation where
  /-- The arguments, without the name of the command -/
  arguments : List String
  /-- The environment -/
  environment : Environment
  /-- Whether somebody watches the output -/
  onTerminal : Bool

/-- How an invocation ends. -/
structure Ending where
  /-- The exit code -/
  exitCode : Nat
  /-- What is printed to the standard output -/
  output : String
  /-- The lines printed to the standard error output -/
  errors : List String
  /-- What the invocation can change, afterwards -/
  world : World

/-- Whether escape sequences are printed: always if they are forced, else only if somebody watches
and nothing in the environment speaks against them. -/
def Invocation.escapes (i : Invocation) : Bool :=
  i.environment.forcesEscapes ||
    (i.onTerminal && i.environment.get? "NO_COLOR" = none &&
      i.environment.get? "CLICOLOR" ≠ some "0")

/-- How what is said about the command line is printed. -/
def Invocation.rendition (i : Invocation) : Rendition :=
  if i.environment.allowsEmphasis i.onTerminal then .emphasized else .printed

namespace FaultKind

/-- Hints on what to do about a fault of this kind. -/
def hints : FaultKind → List String
  | empty =>
    ["", "No latency lines found:",
      "  - Lines must contain 'took <N> us' or end in ';<N>'",
      "  - Check that the log is the benchmark output, not a summary",
      "  - Run 'latplot --help-topic patterns' for details"]
  | io =>
    ["", "File troubleshooting:",
      "  - Check that the input path exists and is readable",
      "  - Check that the output directory exists and is writable"]
  | render =>
    ["", "Rendering help:",
      "  - Try a smaller --width/--height",
      "  - Pass a different font with --font"]
  | config | validation | parse | internal => []

end FaultKind

namespace Invocation

/-- The lines of a text. -/
def linesOfText (s : String) : List String :=
  (linesOf (s.toList ++ ['\n'])).map String.ofList

/-- The exit code of an invocation whose arguments are not understood. -/
def usageExitCode : Nat := 2

/-- How an invocation ends whose arguments could not be read to the end. -/
def endUsage (i : Invocation) (w : World) (u : Usage) : Ending :=
  match u with
  | .help => ⟨0, overview i.rendition, [], w⟩
  | .version => ⟨0, versionLine, [], w⟩
  | _ => ⟨usageExitCode, "", linesOfText (u.complaint i.rendition), w⟩

/-- How an invocation ends with a fault: a report of it and hints on it. -/
def endFault (escapes : Bool) (o : Options) (env : Environment) (w : World) (said : List String)
    (f : Fault) : Ending :=
  ⟨f.kind.exitCode, "",
    said ++ linesOfText ((f.report (o.usesColor env) o.verbose).render escapes) ++ f.kind.hints, w⟩

/-- Runs a configuration. -/
def runConfig (i : Invocation) (k : Circumstances) (stamp : Stamp) (sessionId : String) (w : World)
    (o : Options) (c : Config) : Ending :=
  let outcome := (App.ofConfig c sessionId).run k w
  let said := Event.lines i.escapes c.useColor stamp outcome.events
  match outcome.result with
  | .ok _ => ⟨0, App.printed i.escapes c outcome.result, said, outcome.world⟩
  | .error f => endFault i.escapes o i.environment outcome.world said f

/-- Performs an invocation. -/
def perform (i : Invocation) (k : Circumstances) (stamp : Stamp) (sessionId : String) (w : World) :
    Ending :=
  match CommandLine.parse i.arguments with
  | .error u => i.endUsage w u
  | .ok o =>
    if o.helpTopic.isSome then
      ⟨0, (Help.page o.helpTopic (o.usesColor i.environment)).render i.escapes ++ "\n", [], w⟩
    else
      match o.loadConfig i.environment w.disk with
      | .error f => endFault i.escapes o i.environment w [] f
      | .ok c => i.runConfig k stamp sessionId w o c

end Invocation

end LatencyCurve
