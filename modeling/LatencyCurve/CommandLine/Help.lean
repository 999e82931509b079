import LatencyCurve.Chart.FontPlaces
import LatencyCurve.CommandLine.Usage

/-!
# Help

The pages of help on single topics, the main page, and the page shown for a topic that does not
exist. They are in color if that is wanted.
-/

namespace LatencyCurve

namespace Help

/-- The topics there is help on. -/
def topics : List String := ["patterns", "output", "examples"]

/-- The heading of a section. -/
def heading (useColor : Bool) (title : String) : Span :=
  .styledIf useColor (.boldColored .brightGreen) title

/-! ### Options -/

/-- An option as the help describes it. -/
structure OptionEntry where
  /-- Its letter, if it has one -/
  letter : Option String
  /-- Its name and what stands for its value -/
  form : String
  /-- What it does -/
  description : String
  /-- An example -/
  sample : Option String
deriving DecidableEq, Repr

/-- The options that the help describes. -/
def options : List OptionEntry :=
  [⟨some "o", "--output <PATH>", "Image path (default: <INPUT>.png)", none⟩,
    ⟨none, "--width <PX>", "Image width in pixels (100-10000, default 1000)", none⟩,
    ⟨none, "--height <PX>", "Image height in pixels (100-10000, default 600)", none⟩,
    ⟨none, "--title <TEXT>", "Chart caption", some "--title \"GetDetail latency\""⟩,
    ⟨none, "--font <PATH>", "TrueType/OpenType font for caption and labels",
      some "--font /usr/share/fonts/truetype/dejavu/DejaVuSans.ttf"⟩,
    ⟨some "s", "--summary", "Print count, min, max, mean and percentiles to stdout", none⟩,
    ⟨none, "--format <text|json>", "Summary format", none⟩,
    ⟨none, "--no-color", "Disable colored output", none⟩,
    ⟨none, "--verbose", "Log extraction counts and phase timings", none⟩,
    ⟨none, "--debug", "Log everything as JSON with source locations", none⟩,
    ⟨none, "--help-topic <TOPIC>", "Show help for: patterns, output, examples", none⟩]

/-- The letter of an option, or as much space. -/
def letterPart (useColor : Bool) (letter : Option String) : Styled :=
  match letter with
  | some l => ["  ", .styledIf useColor (.colored .brightCyan) ("-" ++ l), ", "]
  | none => ["      "]

/-- An example under the description of an option. -/
def samplePart (useColor : Bool) (sample : Option String) : Styled :=
  match sample with
  | some s =>
    [.ofString ("\n" ++ blanks 36),
      .styledIf useColor (.italicColored .brightBlue) ("Example: " ++ s)]
  | none => []

/-- An option. -/
def optionText (useColor : Bool) (o : OptionEntry) : Styled :=
  let form := Span.styledIf useColor (.colored .brightCyan) o.form
  let description := Span.styledIf useColor (.colored .white) o.description
  let middle : Styled := [{ form with width := 30 }, " ", description]
  letterPart useColor o.letter ++ middle ++ samplePart useColor o.sample ++ [.ofString "\n"]

/-! ### Examples -/

/-- A way to use the program. -/
structure Sample where
  /-- What it is for -/
  title : String
  /-- The command -/
  command : String
  /-- What it does -/
  description : String
deriving DecidableEq, Repr

/-- The ways to use the program that the help shows. -/
def samples : List Sample :=
  [⟨"Plot a benchmark log", "latplot results/bench.log", "Writes results/bench.log.png"⟩,
    ⟨"Choose the image path and size",
      "latplot bench.log --output cdf.png --width 1600 --height 900",
      "Renders a larger chart to cdf.png"⟩,
    ⟨"Machine-readable summary", "latplot bench.log --summary --format json",
      "Prints count, min, max, mean and percentiles as JSON on stdout"⟩,
    ⟨"Troubleshoot a log that yields no data", "latplot bench.log --verbose --no-color",
      "Shows how many lines were read and how many matched"⟩]

/-- A way to use the program, over three lines. -/
def sampleText (useColor : Bool) (s : Sample) : Styled :=
  ["  ", .styledIf useColor (.boldColored .brightYellow) s.title, ":\n    ",
    .styledIf useColor (.colored .brightWhite) s.command, "\n    ",
    .styledIf useColor (.italicColored .brightBlue) s.description, "\n"]

/-! ### Sections -/

/-- The name, purpose and version of the program. -/
def headerSection (useColor : Bool) : Styled :=
  [.styledIf useColor (.boldColored .brightCyan) commandName, "\n",
    .styledIf useColor (.colored .brightBlue) "Plot the latency CDF of a benchmark log",
    "\nVersion: ", .styledIf useColor (.colored .green) versionText, "\n"]

/-- The forms of the command. -/
def usageForms : List String :=
  ["latplot <INPUT> [OPTIONS]", "latplot <INPUT> --summary --format json",
    "latplot --help-topic <TOPIC>"]

/-- How the command is used. -/
def usageSection (useColor : Bool) : Styled :=
  [heading useColor "USAGE:", "\n"] ++
    usageForms.flatMap fun form ↦
      [.ofString "  ", .styledIf useColor (.colored .brightWhite) form, .ofString "\n"]

/-- What the options do. -/
def optionsSection (useColor : Bool) : Styled :=
  [heading useColor "OPTIONS:", "\n"] ++ options.flatMap (optionText useColor)

/-- Ways to use the program. -/
def examplesSection (useColor : Bool) : Styled :=
  [heading useColor "EXAMPLES:", "\n"] ++
    samples.flatMap fun s ↦ sampleText useColor s ++ [.ofString "\n"]

/-- Where there is more help. -/
def footer (useColor : Bool) : Styled :=
  [.styledIf useColor (.colored .brightBlue)
    ("More help: latplot --help-topic <" ++ String.intercalate "|" topics ++ ">"), "\n"]

/-- The main page. -/
def mainPage (useColor : Bool) : Styled :=
  let gap : Styled := ["\n"]
  headerSection useColor ++ gap ++ usageSection useColor ++ gap ++ optionsSection useColor ++ gap ++
    examplesSection useColor ++ gap ++ footer useColor

/-- The page on the lines that are recognized. -/
def patternsPage (useColor : Bool) : Styled :=
  [heading useColor "LOG LINE PATTERNS:",
"

Each line is checked against these patterns, in order:

1. took <N> us
   'took', whitespace, decimal digits, whitespace, 'us'
   Example: GetDetail took 1532 us

2. ;<N> at the end of the line
   a semicolon followed by decimal digits up to the line end
   Example: PostReview;user42;restaurant7;1532

N is in microseconds and is plotted as N / 1000 milliseconds.
Lines matching neither pattern are skipped. If no line matches,
latplot exits with code 6 and writes no image.
"]

/-- The page on what is written. -/
def outputPage (useColor : Bool) : Styled :=
  [heading useColor "OUTPUT REFERENCE:",
"

PLOT:
- PNG written to <INPUT>.png unless --output is given
- X axis: latency in ms, from 0 to just past the largest value
- Y axis: fraction of requests at or below that latency (0 to 1)

FONTS:
Caption and axis labels need a TrueType/OpenType font. Without --font
these locations are tried:
",
    .ofString (String.join (fontPlaces.map fun p ↦ "  " ++ p.text ++ "\n")),
"If none is usable the chart is drawn without text.

STREAMS:
- stdout: the --summary output only
- stderr: warnings, logs and errors

EXIT CODES:
  0  success
  1  invalid arguments
  5  input or output file error
  6  no latency lines found
  7  rendering failed
"]

/-- The page on a topic, which may be named in letters of either case. -/
def topicPage? (topic : String) (useColor : Bool) : Option Styled :=
  match topic.toLower with
  | "patterns" | "pattern" | "format" => some (patternsPage useColor)
  | "output" | "plot" => some (outputPage useColor)
  | "examples" => some (examplesSection useColor)
  | _ => none

/-- What is said about a topic that does not exist, in front of the main page. -/
def unknownTopic (topic : String) : String :=
  "Unknown help topic: '" ++ topic ++ "'\n\nAvailable topics: " ++
    String.intercalate ", " topics ++ "\n\n"

/-- The help on a topic, or the main page. -/
def page (topic : Option String) (useColor : Bool) : Styled :=
  match topic with
  | none => mainPage useColor
  | some t =>
    match topicPage? t useColor with
    | some styled => styled
    | none => .ofString (unknownTopic t) :: mainPage useColor

end Help

end LatencyCurve
