import LatencyCurve.Config.Basic
import LatencyCurve.Disk.Basic
import LatencyCurve.Text.Blank

/-!
# Checking a configuration

Before a run touches anything its configuration is checked against the file system. Some findings
refuse the run (`Config.validate`); the others are notices, which are printed and let it go on
(`Config.check`).

The finding that matters most is that the image would be written over the log. Paths that look
different can lead to one file, by dots, by links or by being absolute, so both are resolved before
they are compared. The image need not exist yet; then its directory is resolved instead.
-/

namespace LatencyCurve

/-! ### Notices -/

/-- How serious a notice is. -/
inductive NoticeLevel where
  /-- Good to know -/
  | info
  /-- Possibly a mistake -/
  | warning
  /-- Almost certainly a mistake -/
  | error
deriving DecidableEq, Repr

namespace NoticeLevel

/-- The name of a level. -/
def name : NoticeLevel → String
  | info => "INFO"
  | warning => "WARNING"
  | error => "ERROR"

/-- The color of a level. -/
def color : NoticeLevel → Color
  | info => .blue
  | warning => .yellow
  | error => .red

end NoticeLevel

/-- Something about a configuration that does not refuse the run. -/
structure Notice where
  /-- How serious it is -/
  level : NoticeLevel
  /-- What it is -/
  message : String
deriving DecidableEq, Repr

/-- A notice as it is printed. -/
def Notice.render (n : Notice) (useColor : Bool) : Styled :=
  ["[", .styledIf useColor (.boldColored n.level.color) n.level.name, "] ", .ofString n.message]

/-! ### One file under two paths -/

namespace Disk

/-- The location that a path to something new would have: that of its directory, with the last name
of the path in it. -/
def newLocation? (d : Disk) (p : Path) : Option Location :=
  match p.fileName?, (d.canonical (directoryOf p)).toOption with
  | some name, some dir => some (dir ++ [name])
  | _, _ => none

/-- Whether writing to one path would reach the file at another. -/
def sameLocation (d : Disk) (output input : Path) : Bool :=
  output.same input ||
    match (d.canonical input).toOption with
    | none => false
    | some there =>
      match (d.canonical output).toOption with
      | some here => here = there
      | none => d.newLocation? output = some there

end Disk

namespace Config

/-! ### What refuses a run -/

/-- The fault of a size that is out of range. -/
def sizeFault (what : String) (n : Nat) : Fault :=
  ⟨.validation, "Image " ++ what ++ " " ++ toString n ++ " is outside " ++ toString leastSize ++
    "..=" ++ toString largestSize⟩

/-- Whether an image may have this width or height. -/
def sizeAllowed (n : Nat) : Bool :=
  leastSize ≤ n && n ≤ largestSize

/-- The fault of an output path that was given, if it has one. -/
def outputFault? (d : Disk) (c : Config) : Option Fault :=
  c.output.bind fun output ↦
    if output.isEmpty then some ⟨.config, "Output path cannot be empty"⟩
    else if d.sameLocation output c.input then
      some ⟨.config, "Output path '" ++ output.text ++ "' would overwrite the input log"⟩
    else none

/-- The first reason to refuse a run, if there is one. -/
def fault? (d : Disk) (c : Config) : Option Fault :=
  if c.input.isEmpty then some ⟨.config, "Input log path cannot be empty"⟩
  else if !sizeAllowed c.width then some (sizeFault "width" c.width)
  else if !sizeAllowed c.height then some (sizeFault "height" c.height)
  else if c.title.toList.all isBlank then some ⟨.validation, "Plot title cannot be empty"⟩
  else outputFault? d c

/-- Refuses a configuration that makes no sense. -/
def validate (d : Disk) (c : Config) : Except Fault Unit :=
  match c.fault? d with
  | some f => .error f
  | none => .ok ()

/-- A configuration passes if it passes each check. -/
theorem validate_eq_ok_iff {d : Disk} {c : Config} :
    c.validate d = .ok () ↔
      c.input.isEmpty = false ∧ sizeAllowed c.width = true ∧ sizeAllowed c.height = true ∧
        c.title.toList.all isBlank = false ∧ outputFault? d c = none := by
  rw [validate, fault?]
  cases c.input.isEmpty <;> cases sizeAllowed c.width <;> cases sizeAllowed c.height <;>
    cases c.title.toList.all isBlank <;> cases outputFault? d c <;> simp

/-- An image path that was given is one more check: it is not empty and is not the input. -/
theorem validate_eq_ok_iff_of_output {d : Disk} {c : Config} {output : Path}
    (h : c.output = some output) :
    c.validate d = .ok () ↔
      { c with output := none }.validate d = .ok () ∧ output.isEmpty = false ∧
        d.sameLocation output c.input = false := by
  have hnone : outputFault? d { c with output := none } = none := rfl
  have hsome : outputFault? d c = none ↔
      output.isEmpty = false ∧ d.sameLocation output c.input = false := by
    rw [outputFault?, h, Option.bind_some]
    cases output.isEmpty <;> cases d.sameLocation output c.input <;> simp
  rw [validate_eq_ok_iff, validate_eq_ok_iff, hnone, hsome]
  simp only [and_assoc, true_and]

/-! ### What deserves a notice -/

/-- Notices about the input. -/
def inputNotices (d : Disk) (c : Config) : List Notice :=
  if d.isDirectory c.input then
    [⟨.error, "Input '" ++ c.input.text ++ "' is a directory, not a log file"⟩]
  else []

/-- Whether a path has the extension of PNG images, in letters of either case. -/
def hasPngExtension (p : Path) : Bool :=
  p.extension?.any (·.toLower = "png")

/-- Notices about the image file. -/
def outputNotices (d : Disk) (c : Config) : List Notice :=
  let output := c.resolvedOutput
  (if hasPngExtension output then []
    else
      [⟨.warning,
        "Output '" ++ output.text ++ "' does not end in .png but will contain PNG data"⟩]) ++
  (if d.pathExists output then
    [⟨.info, "Output '" ++ output.text ++ "' exists and will be overwritten"⟩]
  else [])

/-- Above this number of pixels, drawing takes noticeably long. -/
def manyPixels : Nat := 16000000

/-- A size as text. -/
def sizeText (c : Config) : String :=
  toString c.width ++ "x" ++ toString c.height

/-- Notices about the size: too many pixels, or a shape outside a quarter to eight. -/
def sizeNotices (c : Config) : List Notice :=
  let pixels := c.width * c.height
  (if manyPixels < pixels then
    [⟨.warning, "Image of " ++ c.sizeText ++ " (" ++ toString (pixels / 1000000) ++
      " megapixels) will be slow to render and large on disk"⟩]
  else []) ++
  (if c.height ≤ 4 * c.width && c.width ≤ 8 * c.height then []
    else [⟨.info, "Unusual aspect ratio " ++ c.sizeText ++ " may make the curve hard to read"⟩])

/-- Notices about the font. -/
def fontNotices (d : Disk) (c : Config) : List Notice :=
  match c.font with
  | none => []
  | some font =>
    if d.isFile font then []
    else [⟨.warning, "Font '" ++ font.text ++ "' not found, falling back to system fonts"⟩]

/-- Checks a configuration: the fault that refuses it, or all notices. -/
def check (d : Disk) (c : Config) : Except Fault (List Notice) :=
  (c.validate d).map fun _ ↦
    c.inputNotices d ++ c.outputNotices d ++ c.sizeNotices ++ c.fontNotices d

end Config

end LatencyCurve
