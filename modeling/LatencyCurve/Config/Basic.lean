import LatencyCurve.Disk.Path
import LatencyCurve.Json.Basic
import LatencyCurve.Report.Formatter

/-!
# Configurations

Everything a run is told. Only the input has no default. The image is written to the path given for
it, or else to the input's path with `.png` behind it, whatever extension that has already.

A configuration can be written as JSON and read back; a document may leave out every field but the
input, and may hold fields that nobody asks for.
-/

namespace LatencyCurve

/-- What a run is told. -/
structure Config where
  /-- The log to read -/
  input : Path
  /-- The image to write, if it is not to stand beside the input -/
  output : Option Path
  /-- Width of the image in pixels -/
  width : Nat
  /-- Height of the image in pixels -/
  height : Nat
  /-- The caption of the chart -/
  title : String
  /-- The font for all text of the chart -/
  font : Option Path
  /-- Whether the summary is printed -/
  showSummary : Bool
  /-- The format of the summary -/
  summaryFormat : SummaryFormat
  /-- Whether colors are used -/
  useColor : Bool
  /-- Whether progress is logged -/
  verbose : Bool
  /-- Whether everything is logged -/
  debug : Bool
deriving DecidableEq

namespace Config

/-- The width of an image that nobody has asked for otherwise. -/
def standardWidth : Nat := 1000

/-- The height of an image that nobody has asked for otherwise. -/
def standardHeight : Nat := 600

/-- The caption of a chart that nobody has asked for otherwise. -/
def standardTitle : String := "Cumulative Distribution Function of Latency (ms)"

/-- The least width and height of an image. -/
def leastSize : Nat := 100

/-- The largest width and height of an image. -/
def largestSize : Nat := 10000

/-- The configuration for an input, with every default. -/
def forInput (input : Path) : Config where
  input := input
  output := none
  width := standardWidth
  height := standardHeight
  title := standardTitle
  font := none
  showSummary := false
  summaryFormat := .text
  useColor := true
  verbose := false
  debug := false

/-- Where the image is written if no other path is given. -/
def besideInput (input : Path) : Path :=
  input.append ".png"

/-- Where the image is written. -/
def resolvedOutput (c : Config) : Path :=
  c.output.getD (besideInput c.input)

/-! ### As JSON -/

/-- A path that may be missing, as JSON. -/
def pathJson (p : Option Path) : Json :=
  .optStr (p.map (·.text))

/-- A configuration as JSON. -/
def toJson (c : Config) : Json :=
  .obj [("input_path", .str c.input.text), ("output_path", pathJson c.output),
    ("width", .nat c.width), ("height", .nat c.height), ("title", .str c.title),
    ("font_path", pathJson c.font), ("show_summary", .bool c.showSummary),
    ("summary_format", .str c.summaryFormat.name), ("enable_color", .bool c.useColor),
    ("verbose", .bool c.verbose), ("debug", .bool c.debug)]

/-- Reads a field that has a default: nothing is read from a field of another type. -/
def readField {α : Type} (j : Json) (key : String) (read? : Json → Option α) (default : α) :
    Option α :=
  match j.member? key with
  | none => some default
  | some value => read? value

/-- A path that may be missing. -/
def optPath? : Json → Option (Option Path)
  | .null => some none
  | .str s => some (some ⟨s⟩)
  | _ => none

/-- The format that a value names: by a text, or by the only key of an object with nothing in it. -/
def format? : Json → Option SummaryFormat
  | .str name => SummaryFormat.ofName? name
  | .obj [(name, .null)] => SummaryFormat.ofName? name
  | _ => none

/-- Reads a configuration. -/
def ofJson? (j : Json) : Option Config := do
  let input ← (← j.member? "input_path").str?
  let std := forInput ⟨input⟩
  return {
    input := ⟨input⟩
    output := ← readField j "output_path" optPath? std.output
    width := ← readField j "width" Json.nat32? std.width
    height := ← readField j "height" Json.nat32? std.height
    title := ← readField j "title" Json.str? std.title
    font := ← readField j "font_path" optPath? std.font
    showSummary := ← readField j "show_summary" Json.bool? std.showSummary
    summaryFormat := ← readField j "summary_format" format? std.summaryFormat
    useColor := ← readField j "enable_color" Json.bool? std.useColor
    verbose := ← readField j "verbose" Json.bool? std.verbose
    debug := ← readField j "debug" Json.bool? std.debug }

/-! ### For readers -/

/-- A truth value as text. -/
def boolText (b : Bool) : String :=
  if b then "true" else "false"

/-- The lines that describe a configuration. -/
def describe (c : Config) : List String :=
  ["Input: " ++ c.input.text,
    "Output: " ++ c.resolvedOutput.text,
    "Image Size: " ++ toString c.width ++ "x" ++ toString c.height,
    "Title: " ++ c.title,
    "Font: " ++ (c.font.map (·.text)).getD "auto",
    "Summary: " ++ (if c.showSummary then c.summaryFormat.name else "off"),
    "Color Output: " ++ boolText c.useColor,
    "Verbose: " ++ boolText c.verbose,
    "Debug: " ++ boolText c.debug]

end Config

end LatencyCurve
