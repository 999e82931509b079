import LatencyCurve.Chart.Font
import LatencyCurve.Chart.Outcome
import LatencyCurve.Config.Basic
import LatencyCurve.Image.Format
import LatencyCurve.Stats.Curve

/-!
# Drawing charts

A chart shows a distribution curve as a path of level and upright steps, in a frame with a margin
all around. Latencies run from zero to a little past the largest; fractions run from zero to one.
The picture holds the frame and the curve. Caption and labels are only accounted for: the outcome
says whether there is a font for them.

Drawing changes two things, both of which are part of the result: the file system, in which the
image is written, and the font registry of the process.
-/

namespace LatencyCurve

/-- What a chart should be like. -/
structure ChartOptions where
  /-- Width of the image in pixels -/
  width : Nat
  /-- Height of the image in pixels -/
  height : Nat
  /-- The caption -/
  title : String
  /-- The font that is asked for -/
  font : Option Path
deriving DecidableEq, Repr

namespace ChartOptions

/-- A chart of the usual size with the usual caption. -/
def standard : ChartOptions :=
  ⟨Config.standardWidth, Config.standardHeight, Config.standardTitle, none⟩

/-- The chart that a configuration asks for. -/
def ofConfig (c : Config) : ChartOptions :=
  ⟨c.width, c.height, c.title, c.font⟩

end ChartOptions

namespace Chart

/-! ### From values to pixels -/

/-- The margin around the frame, in pixels. -/
def margin : Nat := 20

/-- The frame of a chart: its left, right, upper and lower edge. -/
structure Frame where
  /-- The leftmost column -/
  left : Nat
  /-- The rightmost column -/
  right : Nat
  /-- The uppermost row -/
  top : Nat
  /-- The lowest row -/
  bottom : Nat
deriving DecidableEq, Repr

/-- The frame in an image of some size. -/
def Frame.of (width height : Nat) : Frame :=
  ⟨margin, max margin (width - 1 - margin), margin, max margin (height - 1 - margin)⟩

/-- The share of a number of pixels that a fraction takes, never more than all of them. -/
def share (fraction : Float) (pixels : Nat) : Nat :=
  min pixels (Quantity.floor (fraction * Float.ofNat pixels))

/-- The pixel of a point, given where the latency axis ends. -/
def pixelOf (f : Frame) (axisEnd : Float) (p : Float × Float) : Nat × Nat :=
  (f.left + share (p.1 / axisEnd) (f.right - f.left), f.bottom - share p.2 (f.bottom - f.top))

/-- The path along the edges of a frame. -/
def Frame.edges (f : Frame) : List (Nat × Nat) :=
  [(f.left, f.top), (f.right, f.top), (f.right, f.bottom), (f.left, f.bottom), (f.left, f.top)]

/-- The picture of a curve. -/
def picture (o : ChartOptions) (curve : List (CurvePoint Float Float)) : Bitmap :=
  let frame := Frame.of o.width o.height
  let pixels := (stepPath curve).map (pixelOf frame (axisRange curve).2)
  ((Bitmap.blank o.width o.height).inkPath frame.edges).inkPath pixels

@[simp] theorem width_picture (o : ChartOptions) (curve : List (CurvePoint Float Float)) :
    (picture o curve).width = o.width := by
  simp [picture, Bitmap.blank]

@[simp] theorem height_picture (o : ChartOptions) (curve : List (CurvePoint Float Float)) :
    (picture o curve).height = o.height := by
  simp [picture, Bitmap.blank]

/-! ### Drawing -/

/-- What drawing a chart leads to. -/
structure Drawing where
  /-- What has been drawn, or why nothing -/
  result : Except Fault ChartOutcome
  /-- The file system afterwards -/
  disk : Disk
  /-- The font registry afterwards -/
  registry : Font.Registry

/-- There is no curve to draw. -/
def nothingToPlot : Fault := ⟨.empty, "nothing to plot"⟩

/-- The directory of the image that is missing, if it is. -/
def missingDirectory? (d : Disk) (output : Path) : Option Path :=
  output.parent?.bind fun dir ↦ if dir.isEmpty || d.isDirectory dir then none else some dir

/-- The directory of the image does not exist. -/
def noDirectory (dir : Path) : Fault :=
  ⟨.io, "Output directory '" ++ dir.text ++ "' does not exist"⟩

/-- Draws a curve and writes the image. -/
def render (d : Disk) (registry : Font.Registry) (o : ChartOptions)
    (curve : List (CurvePoint Float Float)) (output : Path) : Drawing :=
  if curve.isEmpty then ⟨.error nothingToPlot, d, registry⟩
  else
    match missingDirectory? d output with
    | some dir => ⟨.error (noDirectory dir), d, registry⟩
    | none =>
      let choice := Font.choose d registry o.font
      let registry' := Font.registryAfter registry choice
      match writeImage d output (picture o curve) with
      | (.error e, d') => ⟨.error ⟨.render, e.text⟩, d', registry'⟩
      | (.ok (), d') => ⟨.ok ⟨output, choice.font, choice.warning⟩, d', registry'⟩

end Chart

end LatencyCurve
