import LatencyCurve.CommandLine.Options
import LatencyCurve.CommandLine.Size

/-!
# Reading the command line

Arguments are read from left to right, and the first thing that ends the reading wins: an error, or
a request for help or for the version.

## Shape decisions

* **A value is stored late.** An option or the input is *pending* with its value until something
  else begins; only then is the value looked at. So a bad value is reported when the next argument
  is known, and not at all if that argument is unknown.
* **A value never begins with a dash**, unless it is attached with an equals sign or is a dash
  alone. So an option at the end, or in front of another option, lacks its value.
* **After `--` everything is an input.**
-/

namespace LatencyCurve

/-! ### What can be given -/

/-- The arguments that the program knows. -/
inductive Argument where
  | input | output | width | height | title | font | summary | format | color | noColor
  | verbose | debug | helpTopic | help | version
deriving DecidableEq, Repr

namespace Argument

/-- The name behind two dashes. -/
def longName : Argument → String
  | input => ""
  | output => "output"
  | width => "width"
  | height => "height"
  | title => "title"
  | font => "font"
  | summary => "summary"
  | format => "format"
  | color => "color"
  | noColor => "no-color"
  | verbose => "verbose"
  | debug => "debug"
  | helpTopic => "help-topic"
  | help => "help"
  | version => "version"

/-- The letter behind one dash. -/
def letter? : Argument → Option Char
  | output => some 'o'
  | summary => some 's'
  | help => some 'h'
  | version => some 'V'
  | input | width | height | title | font | format | color | noColor | verbose | debug
  | helpTopic => none

/-- What stands for the value of an argument that takes one. -/
def valueName? : Argument → Option String
  | input => some "INPUT"
  | output | font => some "PATH"
  | width => some "WIDTH"
  | height => some "HEIGHT"
  | title => some "TEXT"
  | format => some "FORMAT"
  | helpTopic => some "TOPIC"
  | summary | color | noColor | verbose | debug | help | version => none

/-- Whether an argument takes a value. -/
def takesValue (a : Argument) : Bool :=
  a.valueName?.isSome

/-- An argument as messages show it. -/
def shown (a : Argument) : String :=
  match a, a.valueName? with
  | input, _ => "[INPUT]"
  | _, some v => "--" ++ a.longName ++ " <" ++ v ++ ">"
  | _, none => "--" ++ a.longName

/-- The arguments with a name behind two dashes. -/
def named : List Argument :=
  [output, width, height, title, font, summary, format, color, noColor, verbose, debug, helpTopic,
    help, version]

/-- The argument with a name behind two dashes. -/
def ofLong? (name : String) : Option Argument :=
  named.find? (·.longName = name)

/-- The argument with a letter behind one dash. -/
def ofShort? (c : Char) : Option Argument :=
  named.find? (·.letter? = some c)

end Argument

/-! ### How reading ends -/

/-- Why the reading of a command line has ended early. -/
inductive Usage where
  /-- A value is not one that the argument takes -/
  | badValue (a : Argument) (value reason : String)
  /-- The value is missing or empty -/
  | missingValue (a : Argument)
  /-- No such argument is known -/
  | unknown (shown : String)
  /-- An argument was given twice -/
  | repeated (a : Argument)
  /-- A value was given to an argument that takes none -/
  | extraValue (a : Argument) (value : String)
  /-- Help was asked for -/
  | help
  /-- The version was asked for -/
  | version
deriving DecidableEq, Repr

/-! ### State of the reading -/

namespace CommandLine

/-- State of the reading. -/
structure State where
  /-- What has been stored -/
  options : Options
  /-- Which arguments have been stored -/
  stored : List Argument
  /-- The argument that was begun last, with its value if that has come -/
  pending : Option (Argument × Option String)
  /-- Whether an input has been begun -/
  inputSeen : Bool

/-- Nothing read yet. -/
def start : State := ⟨.none, [], none, false⟩

/-- A path that is given as a value must not be empty. -/
def readPath (a : Argument) (value : String) : Except Usage (Option Path) :=
  if value.isEmpty then .error (.missingValue a) else .ok (some ⟨value⟩)

/-- A size that is given as a value. -/
def sizeValue (a : Argument) (value : String) : Except Usage Nat :=
  match readSize value with
  | .ok n => .ok n
  | .error reason => .error (.badValue a value reason)

/-- A format that is given as a value. -/
def formatValue (a : Argument) (value : String) : Except Usage SummaryFormat :=
  match SummaryFormat.parse value with
  | .ok f => .ok f
  | .error fault => .error (.badValue a value fault.text)

/-- Options with the value of one argument set; the value of a flag does not matter. -/
def setValue (o : Options) (a : Argument) (value : String) : Except Usage Options :=
  match a with
  | .input => (readPath a value).map fun p ↦ { o with input := p }
  | .output => (readPath a value).map fun p ↦ { o with output := p }
  | .font => (readPath a value).map fun p ↦ { o with font := p }
  | .width => (sizeValue a value).map fun n ↦ { o with width := n }
  | .height => (sizeValue a value).map fun n ↦ { o with height := n }
  | .format => (formatValue a value).map fun f ↦ { o with format := f }
  | .title => .ok { o with title := some value }
  | .helpTopic => .ok { o with helpTopic := some value }
  | .summary => .ok { o with summary := true }
  | .color => .ok { o with color := true }
  | .noColor => .ok { o with noColor := true }
  | .verbose => .ok { o with verbose := true }
  | .debug => .ok { o with debug := true }
  | .help => .error .help
  | .version => .error .version

/-- Stores an argument with its value. -/
def store (s : State) (a : Argument) (value : String) : Except Usage State :=
  if a ∈ s.stored then .error (.repeated a)
  else (setValue s.options a value).map fun o ↦ { s with options := o, stored := a :: s.stored }

/-- Stores what is pending. -/
def settle (s : State) : Except Usage State :=
  match s.pending with
  | none => .ok s
  | some (a, none) => .error (.missingValue a)
  | some (a, some value) => store { s with pending := none } a value

/-- Stores a flag, or an argument whose value is attached to it. -/
def take (s : State) (a : Argument) (value : String) : Except Usage State :=
  (settle s).bind fun s ↦ store s a value

/-- Begins an argument whose value comes next. -/
def await (s : State) (a : Argument) : Except Usage State :=
  (settle s).map fun s ↦ { s with pending := some (a, none) }

/-- Begins an argument that takes a value, which may be attached to it. -/
def takeValue (s : State) (a : Argument) : Option String → Except Usage State
  | some value => take s a value
  | none => await s a

/-! ### Single arguments -/

/-- Reads an input; there is only one. -/
def readInput (s : State) (arg : String) : Except Usage State :=
  if s.inputSeen then .error (.unknown arg)
  else (settle s).map fun s ↦ { s with pending := some (.input, some arg), inputSeen := true }

/-- Cuts a long argument at its first equals sign. -/
def splitLong (cs : List Char) : String × Option String :=
  match cs.dropWhile (· ≠ '=') with
  | [] => (String.ofList cs, none)
  | _ :: value => (String.ofList (cs.takeWhile (· ≠ '=')), some (String.ofList value))

/-- Reads what stands behind two dashes. -/
def readLong (s : State) (cs : List Char) : Except Usage State :=
  let (name, value?) := splitLong cs
  match Argument.ofLong? name with
  | none => .error (.unknown ("--" ++ name))
  | some a =>
    if a.takesValue then takeValue s a value?
    else
      match value? with
      | some value => .error (.extraValue a value)
      | none => take s a ""

/-- The value attached to a letter: what follows it, without an equals sign in between. -/
def attached? : List Char → Option String
  | [] => none
  | '=' :: cs => some (String.ofList cs)
  | cs => some (String.ofList cs)

/-- Reads the letters behind one dash. -/
def readShort (s : State) : List Char → Except Usage State
  | [] => .ok s
  | c :: cs =>
    match Argument.ofShort? c with
    | none => .error (.unknown ("-" ++ String.singleton c))
    | some a =>
      if a.takesValue then takeValue s a (attached? cs)
      else (take s a "").bind fun s ↦ readShort s cs

/-- Reads an argument that is no option: the value that is waited for, or an input. -/
def readPlain (s : State) (arg : String) : Except Usage State :=
  match s.pending with
  | some (a, none) => .ok { s with pending := some (a, some arg) }
  | _ => readInput s arg

/-! ### The whole command line -/

/-- Reads the arguments after `--`. -/
def readInputs (s : State) : List String → Except Usage State
  | [] => .ok s
  | arg :: args => (readInput s arg).bind fun s ↦ readInputs s args

/-- Reads arguments. -/
def readAll (s : State) : List String → Except Usage State
  | [] => .ok s
  | arg :: args =>
    match arg.toList with
    | ['-', '-'] => readInputs s args
    | '-' :: '-' :: cs => (readLong s cs).bind fun s ↦ readAll s args
    | '-' :: c :: cs => (readShort s (c :: cs)).bind fun s ↦ readAll s args
    | _ => (readPlain s arg).bind fun s ↦ readAll s args

/-- What a command line says, or how the reading has ended. -/
def parse (args : List String) : Except Usage Options :=
  ((readAll start args).bind settle).map (·.options)

end CommandLine

end LatencyCurve
