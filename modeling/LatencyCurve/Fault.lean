import LatencyCurve.Text.Styled

/-!
# Faults

Everything that can go wrong has a kind and a message. The kind decides the exit code, the color and
the advice; the message says what happened, and grows at its front when a fault passes through a
step that adds its own context.
-/

namespace LatencyCurve

/-- The kinds of faults. -/
inductive FaultKind where
  /-- The command line or configuration makes no sense -/
  | config
  /-- A value is outside what is allowed -/
  | validation
  /-- A file could not be read or written -/
  | io
  /-- A text is not of the form it should have -/
  | parse
  /-- There are no latencies -/
  | empty
  /-- The chart could not be drawn -/
  | render
  /-- Anything else -/
  | internal
deriving DecidableEq, Repr

namespace FaultKind

/-- The short name of a kind, for reports and logs. -/
def category : FaultKind → String
  | config => "CONFIG"
  | validation => "VALIDATION"
  | io => "IO"
  | parse => "PARSE"
  | empty => "EMPTY"
  | render => "RENDER"
  | internal => "INTERNAL"

/-- What the text of a fault begins with. -/
def heading : FaultKind → String
  | config => "Configuration error: "
  | validation => "Validation error: "
  | io => "I/O error: "
  | parse => "Parsing error: "
  | empty => "Empty result: "
  | render => "Render error: "
  | internal => "Internal error: "

/-- The exit code of a process that ends with a fault of this kind. -/
def exitCode : FaultKind → Nat
  | config | validation | parse => 1
  | io => 5
  | empty => 6
  | render => 7
  | internal => 99

/-- The color in which a fault of this kind is reported. -/
def color : FaultKind → Color
  | config | validation | parse => .red
  | empty => .yellow
  | io | render => .cyan
  | internal => .brightRed

/-- What the friendly text of a fault begins with. -/
def friendlyHeading : FaultKind → String
  | config => "Configuration problem: "
  | validation => "Invalid input: "
  | io => "File operation failed: "
  | parse => "Failed to parse data: "
  | empty => "No latency data: "
  | render => "Plot rendering failed: "
  | internal => "Internal error: "

/-- The advice that goes with a fault of this kind. -/
def advice : FaultKind → String
  | config => "Suggestion: Check your command line arguments (see --help)."
  | validation => "Suggestion: Check the image size, title and output path values."
  | io =>
    "Suggestion: Check that the log file exists, is readable, and that the output directory is " ++
      "writable."
  | parse => "Suggestion: Check the format of your command line values."
  | empty =>
    "Suggestion: The log needs lines like 'request took 1234 us' or lines ending in ';1234'. " ++
      "See --help-topic patterns."
  | render => "Suggestion: Try a different image size or font with --width/--height/--font."
  | internal => "This is likely a bug. Please report this issue with the error details."

end FaultKind

/-- Something that went wrong. -/
structure Fault where
  /-- What kind of thing -/
  kind : FaultKind
  /-- What exactly -/
  message : String
deriving DecidableEq, Repr

namespace Fault

/-- The text of a fault. -/
def text (f : Fault) : String :=
  f.kind.heading ++ f.message

/-- A fault that has passed through a step with a context of its own. -/
def within (context : String) (f : Fault) : Fault :=
  { f with message := context ++ ": " ++ f.message }

@[simp] theorem kind_within (context : String) (f : Fault) : (f.within context).kind = f.kind := rfl

/-- The text of a fault with the advice for it. -/
def friendlyText (f : Fault) : String :=
  f.kind.friendlyHeading ++ f.message ++ "\n\n" ++ f.kind.advice

/-- A fault as one line for a terminal. -/
def console (f : Fault) (useColor : Bool) : Styled :=
  ["[", .styledIf useColor (.boldColored f.kind.color) f.kind.category, "] ",
    .styledIf useColor (.colored f.kind.color) f.text]

/-- The report of a fault: one line, and the advice if that is wanted. -/
def report (f : Fault) (useColor verbose : Bool) : Styled :=
  let advice : Styled := ["\n\n", Span.ofString f.friendlyText]
  f.console useColor ++ (if verbose then advice else [])

/-! ### Faults of other layers -/

/-- The fault of a file operation. -/
def ofFile (message : String) : Fault := ⟨.io, message⟩

/-- The fault of a text that is not JSON. -/
def ofJson (message : String) : Fault := ⟨.parse, "JSON parse error: " ++ message⟩

/-- The fault of a chain of causes, the outermost first. -/
def ofCauses (causes : List String) : Fault := ⟨.internal, String.intercalate ": " causes⟩

end Fault

end LatencyCurve
