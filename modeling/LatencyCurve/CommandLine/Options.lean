import LatencyCurve.Config.Check

/-!
# Options of the command line

What a command line says once it has been read, and how a configuration comes from it. Colors are
used if they are forced, and otherwise if nothing speaks against them: the option that disables
them, a dumb terminal, or the environment variable `NO_COLOR`.
-/

namespace LatencyCurve

/-! ### Environment -/

/-- The environment variables a process is started with. -/
structure Environment where
  /-- Names and values -/
  entries : List (String × String)
deriving DecidableEq, Repr

namespace Environment

/-- The variables that the program looks at. -/
def names : List String :=
  ["TERM", "NO_COLOR", "CLICOLOR", "CLICOLOR_FORCE", "CI"]

/-- The value of a variable. -/
def get? (env : Environment) (name : String) : Option String :=
  env.entries.lookup name

/-- Whether nothing in the environment speaks against colors. -/
def allowsColor (env : Environment) : Bool :=
  env.get? "TERM" ≠ some "dumb" && env.get? "NO_COLOR" = none

/-- Whether escape sequences are wanted even if nobody watches. -/
def forcesEscapes (env : Environment) : Bool :=
  match env.get? "CLICOLOR_FORCE" with
  | none => false
  | some value => value ≠ "0"

/-- Whether a variable has a value that is not empty. -/
def hasText (env : Environment) (name : String) : Bool :=
  match env.get? name with
  | none => false
  | some value => value ≠ ""

/-- Whether the terminal that somebody watches knows escape sequences. -/
def knowsEscapes (env : Environment) : Bool :=
  match env.get? "TERM" with
  | none => (env.get? "CLICOLOR").isSome || (env.get? "CI").isSome
  | some term => term ≠ "dumb" || (env.get? "CLICOLOR").isSome || (env.get? "CI").isSome

/-- Whether what is said about the command line is printed with emphasis: `NO_COLOR` forbids it and
`CLICOLOR_FORCE` forces it, each with any value that is not empty. -/
def allowsEmphasis (env : Environment) (onTerminal : Bool) : Bool :=
  if env.hasText "NO_COLOR" then false
  else if env.hasText "CLICOLOR_FORCE" then true
  else if env.get? "CLICOLOR" = some "0" then false
  else onTerminal && env.knowsEscapes

end Environment

/-! ### Options -/

/-- What a command line says. -/
structure Options where
  /-- The log to read -/
  input : Option Path
  /-- The image to write -/
  output : Option Path
  /-- Width of the image -/
  width : Nat
  /-- Height of the image -/
  height : Nat
  /-- The caption of the chart -/
  title : Option String
  /-- The font of the chart -/
  font : Option Path
  /-- Print a summary -/
  summary : Bool
  /-- The format of the summary -/
  format : SummaryFormat
  /-- Use colors -/
  color : Bool
  /-- Use no colors -/
  noColor : Bool
  /-- Log progress -/
  verbose : Bool
  /-- Log everything -/
  debug : Bool
  /-- Show the help on a topic -/
  helpTopic : Option String
deriving DecidableEq, Repr

namespace Options

/-- What an empty command line says. -/
def none : Options where
  input := .none
  output := .none
  width := Config.standardWidth
  height := Config.standardHeight
  title := .none
  font := .none
  summary := false
  format := .text
  color := false
  noColor := false
  verbose := false
  debug := false
  helpTopic := .none

/-- Why options do not go together, if they do not. -/
def conflict? (o : Options) : Option String :=
  if o.color && o.noColor then some "Cannot specify both --color and --no-color"
  else if o.input = .none && o.helpTopic = .none then
    some "Missing INPUT: pass the benchmark log to plot"
  else if o.format ≠ .text && !o.summary then
    some "--format only applies together with --summary"
  else .none

/-- Whether colors are used. -/
def usesColor (o : Options) (env : Environment) : Bool :=
  if o.color then true else if o.noColor then false else env.allowsColor

/-- The configuration that options ask for, not yet checked. -/
def toConfig (o : Options) (env : Environment) : Except Fault Config :=
  match o.conflict? with
  | some message => .error ⟨.config, message⟩
  | .none =>
    match o.input with
    | .none => .error ⟨.config, "No input log given"⟩
    | some input =>
      .ok
        { input := input
          output := o.output
          width := o.width
          height := o.height
          title := o.title.getD Config.standardTitle
          font := o.font
          showSummary := o.summary
          summaryFormat := o.format
          useColor := o.usesColor env
          verbose := o.verbose
          debug := o.debug }

/-- The configuration that options ask for, if it makes sense. -/
def loadConfig (o : Options) (env : Environment) (d : Disk) : Except Fault Config :=
  (o.toConfig env).bind fun c ↦ (c.validate d).map fun _ ↦ c

end Options

end LatencyCurve
