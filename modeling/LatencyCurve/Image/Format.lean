import LatencyCurve.Disk.Basic
import LatencyCurve.Image.Bmp
import LatencyCurve.Image.Jpeg
import LatencyCurve.Image.Png
import LatencyCurve.Text.Quoted

/-!
# Image formats

The format of an image file is chosen by the extension of its path, in letters of either case. Some
formats are known by name only: such a file is made, and then nothing can be written to it. A path
without an extension, or with one that no format has, is refused before anything is made.
-/

namespace LatencyCurve

/-- The formats that extensions stand for. -/
inductive ImageFormat where
  /-- Portable network graphics -/
  | png
  /-- Windows bitmaps -/
  | bmp
  /-- Joint photographic experts group -/
  | jpeg
  /-- A format that is known by name only -/
  | other (name : String)
deriving DecidableEq, Repr

namespace ImageFormat

/-- The format that an extension in lower case stands for. -/
def ofExtension? : String → Option ImageFormat
  | "png" => some png
  | "bmp" => some bmp
  | "jpg" | "jpeg" => some jpeg
  | "gif" => some (other "Gif")
  | "webp" => some (other "WebP")
  | "tif" | "tiff" => some (other "Tiff")
  | "tga" => some (other "Tga")
  | "dds" => some (other "Dds")
  | "ico" => some (other "Ico")
  | "hdr" => some (other "Hdr")
  | "exr" => some (other "OpenExr")
  | "pbm" | "pam" | "ppm" | "pgm" => some (other "Pnm")
  | "ff" | "farbfeld" => some (other "Farbfeld")
  | "avif" => some (other "Avif")
  | "qoi" => some (other "Qoi")
  | _ => none

/-- The format of the file at a path. -/
def ofPath? (p : Path) : Option ImageFormat :=
  p.extension?.bind fun e ↦ ofExtension? e.toLower

end ImageFormat

/-! ### Why an image is not written -/

/-- Why an image could not be written. -/
inductive ImageError where
  /-- The path has no extension -/
  | noExtension
  /-- No format has this extension -/
  | unknownExtension (extension : String)
  /-- Nothing can be written in this format -/
  | unsupported (format : String)
  /-- The file could not be opened -/
  | file (e : FileError)
  /-- The image has no columns -/
  | zeroWidth
  /-- The image has no rows -/
  | zeroHeight
  /-- The image has more columns or rows than the format can say -/
  | tooLarge
deriving DecidableEq, Repr

namespace ImageError

/-- An unsupported format, as it is reported. -/
def unsupportedText (format kind : String) : String :=
  "Unsupported(UnsupportedError \x7b format: " ++ format ++ ", kind: Format(" ++ kind ++ ") \x7d)"

/-- An error of the writing itself, as it is reported. -/
def customText (message : String) : String :=
  "IoError(Custom \x7b kind: Other, error: \"" ++ message ++ "\" \x7d)"

/-- What is said about an image that could not be written. -/
def details : ImageError → String
  | noExtension => unsupportedText "Unknown" "Unknown"
  | unknownExtension e =>
    let shown := "PathExtension(" ++ quoted e ++ ")"
    unsupportedText shown shown
  | unsupported format => unsupportedText "Unknown" ("Name(\"" ++ format ++ "\")")
  | file e => "IoError(" ++ e.details ++ ")"
  | zeroWidth => customText "Zero width not allowed"
  | zeroHeight => customText "Zero height not allowed"
  | tooLarge => "Parameter(ParameterError \x7b kind: DimensionMismatch, underlying: None \x7d)"

/-- The text of an error. -/
def text (e : ImageError) : String :=
  "backend error: Drawing backend error: ImageError(" ++ e.details ++ ")"

end ImageError

/-! ### Writing images -/

/-- The format of the file at a path, or why it has none. -/
def formatOf (p : Path) : Except ImageError ImageFormat :=
  match p.extension? with
  | none => .error .noExtension
  | some e =>
    match ImageFormat.ofPath? p with
    | some f => .ok f
    | none => .error (.unknownExtension e)

/-- A bitmap in some format. -/
def encodeImage (format : ImageFormat) (b : Bitmap) : Except ImageError ByteArray :=
  match format with
  | .png =>
    if b.width = 0 then .error .zeroWidth
    else if b.height = 0 then .error .zeroHeight
    else .ok (Png.encode b)
  | .bmp => .ok (Bmp.encode b)
  | .jpeg =>
    if Jpeg.largestSize < b.width || Jpeg.largestSize < b.height then .error .tooLarge
    else .ok (Jpeg.encode b)
  | .other name => .error (.unsupported name)

/-- Writes a bitmap to the file at a path: what comes of it, and the file system afterwards. The
file is made or emptied before the image is encoded. -/
def writeImage (d : Disk) (p : Path) (b : Bitmap) : Except ImageError Unit × Disk :=
  match formatOf p with
  | .error e => (.error e, d)
  | .ok format =>
    match d.target p with
    | .error e => (.error (.file e), d)
    | .ok l =>
      match encodeImage format b with
      | .error e => (.error e, d.put l (.file ByteArray.empty))
      | .ok content => (.ok (), d.put l (.file content))

end LatencyCurve
