import LatencyCurve.CommandLine.Parser
import LatencyCurve.Text.Escapes
import LatencyCurve.Text.Styled

/-!
# Usage

What is printed when the reading of a command line has ended early: a complaint about an argument,
the overview of all arguments (`overview`) or the version (`versionLine`).

These texts are written with emphasis, which is taken out again where it is not wanted. The words of
the user stand inside them as they are, so the escape sequences in those are taken out with the
emphasis, and are left in with it. A sequence that they leave unfinished is one thing to a text as a
whole and another to an output that is written bit by bit (`Rendition`).
-/

namespace LatencyCurve

/-- The version of the program. -/
def versionText : String := "0.1.0"

/-- The name of the command. -/
def commandName : String := "latplot"

/-- What `--version` prints. -/
def versionLine : String :=
  commandName ++ " " ++ versionText ++ "\n"

/-! ### Emphasis -/

/-- Why a part of a text stands out. -/
inductive Emphasis where
  /-- It is the title of a section -/
  | heading
  /-- It is to be typed as it is -/
  | literal
  /-- It says that something is wrong -/
  | alarm
  /-- It is what is wrong -/
  | invalid
deriving DecidableEq, Repr

namespace Emphasis

/-- The parameters that select an emphasis: bold, underlined, red, yellow. -/
def codes : Emphasis → List String
  | heading => ["1", "4"]
  | literal => ["1"]
  | alarm => ["1", "31"]
  | invalid => ["33"]

/-- A text with emphasis; each parameter has a sequence of its own. -/
def mark (e : Emphasis) (s : String) : String :=
  String.join (e.codes.map fun code ↦ escapeSequence [code]) ++ s ++ resetSequence

/-- A text between apostrophes, with emphasis. -/
def quote (e : Emphasis) (s : String) : String :=
  "'" ++ e.mark s ++ "'"

end Emphasis

/-- What a text with emphasis is turned into. -/
inductive Rendition where
  /-- The text as it is, for a terminal -/
  | emphasized
  /-- What is printed to an output that wants no escape sequences -/
  | printed
  /-- A text without escape sequences, as a value -/
  | bare
deriving DecidableEq, Repr

/-- A text with emphasis in the form that is wanted. An output goes on with an unfinished sequence
where the next command stands; in a value, layout ends it. -/
def Rendition.render (r : Rendition) (s : String) : String :=
  match r with
  | emphasized => s
  | printed => withoutEscapes .pauses s
  | bare => withoutEscapes .ends s

/-! ### Complaints -/

namespace Usage

/-- What is wrong, and nothing about the two requests. -/
def message : Usage → String
  | badValue a value reason =>
    "invalid value " ++ Emphasis.invalid.quote value ++ " for " ++ Emphasis.literal.quote a.shown ++
      ": " ++ reason
  | missingValue a =>
    "a value is required for " ++ Emphasis.invalid.quote a.shown ++ " but none was supplied"
  | unknown shown => "unexpected argument " ++ Emphasis.invalid.quote shown ++ " found"
  | repeated a =>
    "the argument " ++ Emphasis.invalid.quote a.shown ++ " cannot be used multiple times"
  | extraValue a value =>
    "unexpected value " ++ Emphasis.invalid.quote value ++ " for " ++
      Emphasis.literal.quote a.shown ++ " found; no more were expected"
  | help | version => ""

/-- What is said under a complaint. -/
def hint : String :=
  "For more information, try " ++ Emphasis.literal.quote "--help" ++ "."

/-- A complaint. -/
def complaint (r : Rendition) (u : Usage) : String :=
  r.render
    (Emphasis.alarm.mark "error:" ++ " " ++ u.message ++ "\n\n" ++ hint)

end Usage

/-! ### Overview -/

namespace Argument

/-- What an argument is for. -/
def purpose : Argument → String
  | input => "Benchmark log to read latencies from"
  | output => "Image path (default: <INPUT>.png)"
  | width => "Image width in pixels [default: 1000]"
  | height => "Image height in pixels [default: 600]"
  | title => "Chart caption"
  | font => "TrueType/OpenType font for caption and axis labels"
  | summary => "Print a latency summary to stdout after plotting"
  | format => "Summary format (text, json) [default: text]"
  | color => "Force colored output"
  | noColor => "Disable colored output"
  | verbose => "Enable verbose output"
  | debug => "Enable debug output"
  | helpTopic => "Show help for specific topic (patterns, output, examples)"
  | help => "Print help"
  | version => "Print version"

/-- The letter of an argument, or as much space. -/
def letterColumn (a : Argument) : String :=
  match a.letter? with
  | some c => "  " ++ Emphasis.literal.mark ("-" ++ String.singleton c) ++ ", "
  | none => blanks 6

/-- What stands for the value of an argument, behind its name. -/
def valueColumn (a : Argument) : String :=
  match a.valueName? with
  | some v => " <" ++ v ++ ">"
  | none => ""

/-- The length of the longest argument as messages show it. -/
def widest : Nat :=
  (named.map fun a ↦ a.shown.length).foldl max 0

/-- The line of the overview for an argument with a name. -/
def line (a : Argument) : String :=
  a.letterColumn ++ Emphasis.literal.mark ("--" ++ a.longName) ++ a.valueColumn ++
    blanks (widest - a.shown.length) ++ "  " ++ a.purpose ++ "\n"

end Argument

/-- What the program is for. -/
def programPurpose : String :=
  "Extracts request latencies from benchmark logs and renders their cumulative distribution " ++
    "as a PNG plot"

/-- What `--help` prints. -/
def overview (r : Rendition) : String :=
  r.render <|
    programPurpose ++ "\n\n" ++
    Emphasis.heading.mark "Usage:" ++ " " ++ Emphasis.literal.mark commandName ++
      " [OPTIONS] [INPUT]\n\n" ++
    Emphasis.heading.mark "Arguments:" ++ "\n" ++
    "  " ++ Argument.input.shown ++ "  " ++ Argument.input.purpose ++ "\n\n" ++
    Emphasis.heading.mark "Options:" ++ "\n" ++
    String.join (Argument.named.map Argument.line)

end LatencyCurve
