import LatencyCurve.Image.Bitmap
import LatencyCurve.Image.Bytes

/-!
# BMP images

Writing a bitmap as a Windows bitmap with a palette of two colors: rows stand from the bottom up and
fill whole groups of four bytes.
-/

namespace LatencyCurve.Bmp

open Bytes

/-- Bytes in front of the pixels: two headers and the palette. -/
def pixelOffset : Nat := 62

/-- Bytes that fill a row up to a multiple of four. -/
def rowPadding (b : Bitmap) : Nat :=
  (4 - b.stride % 4) % 4

/-- The rows from the bottom up. -/
def pixels (b : Bitmap) : ByteArray :=
  let padding := ofList (List.replicate (rowPadding b) 0)
  (List.range b.height).foldl (fun acc y ↦ acc ++ b.row (b.height - 1 - y) ++ padding)
    ByteArray.empty

/-- The headers and the palette: paper is white, ink is blue. -/
def headers (width height pixelSize : Nat) : List UInt8 :=
  [0x42, 0x4D] ++ little32 (pixelOffset + pixelSize) ++ little32 0 ++ little32 pixelOffset ++
    little32 40 ++ little32 width ++ little32 height ++ little16 1 ++ little16 1 ++ little32 0 ++
    little32 pixelSize ++ little32 2835 ++ little32 2835 ++ little32 2 ++ little32 2 ++
    [0xFF, 0xFF, 0xFF, 0x00] ++ [0xFF, 0x00, 0x00, 0x00]

/-- A bitmap as a BMP image. -/
def encode (b : Bitmap) : ByteArray :=
  let rows := pixels b
  ofList (headers b.width b.height rows.size) ++ rows

end LatencyCurve.Bmp
