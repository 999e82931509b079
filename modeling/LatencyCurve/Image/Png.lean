import LatencyCurve.Image.Bitmap
import LatencyCurve.Image.Bytes

/-!
# PNG images

Writing a bitmap as a PNG image, and reading the size of one. The image has a palette of two colors
and a bit for each pixel; its data is not compressed.
-/

namespace LatencyCurve.Png

open Bytes

/-- The bytes every PNG image begins with. -/
def signature : List UInt8 :=
  [0x89, 0x50, 0x4E, 0x47, 0x0D, 0x0A, 0x1A, 0x0A]

/-- The type of the chunk that holds the size. -/
def headerType : List UInt8 := [0x49, 0x48, 0x44, 0x52]

/-- The type of the chunk that holds the palette. -/
def paletteType : List UInt8 := [0x50, 0x4C, 0x54, 0x45]

/-- The type of the chunk that holds the pixels. -/
def dataType : List UInt8 := [0x49, 0x44, 0x41, 0x54]

/-- The type of the last chunk. -/
def endType : List UInt8 := [0x49, 0x45, 0x4E, 0x44]

/-- A chunk: length, type, content and checksum. -/
def chunk (type : List UInt8) (content : ByteArray) : ByteArray :=
  let body := ofList type ++ content
  ofList (big32 content.size) ++ body ++ ofList (big32 (crc body))

/-- Size, one bit for a pixel, a palette, and the only ways there are to compress, filter and order
the pixels. -/
def header (width height : Nat) : ByteArray :=
  ofList (big32 width ++ big32 height ++ [1, 3, 0, 0, 0])

/-- Paper is white, ink is blue. -/
def palette : ByteArray :=
  ofList [0xFF, 0xFF, 0xFF, 0x00, 0x00, 0xFF]

/-- The rows, each behind the number of its filter. -/
def scanlines (b : Bitmap) : ByteArray :=
  (List.range b.height).foldl (fun acc y ↦ (acc.push 0) ++ b.row y) ByteArray.empty

/-- The most bytes that one stored block holds. -/
def blockSize : Nat := 65535

/-- Stored blocks from some place on, the last of them marked. -/
def storedBlocks (data acc : ByteArray) (place : Nat) : Nat → ByteArray
  | 0 => acc
  | n + 1 =>
    let block := data.extract place (place + blockSize)
    let final : UInt8 := if n = 0 then 1 else 0
    let header := ofList (final :: little16 block.size ++ little16 (65535 - block.size))
    storedBlocks data (acc ++ header ++ block) (place + blockSize) n

/-- Data in a zlib stream, stored as it is. -/
def stored (data : ByteArray) : ByteArray :=
  storedBlocks data (ofList [0x78, 0x01]) 0 ((data.size + blockSize - 1) / blockSize) ++
    ofList (big32 (adler data))

/-- A bitmap as a PNG image. -/
def encode (b : Bitmap) : ByteArray :=
  ofList signature ++ chunk headerType (header b.width b.height) ++ chunk paletteType palette ++
    chunk dataType (stored (scanlines b)) ++ chunk endType ByteArray.empty

/-- An image is no shorter than the bytes it begins with. -/
theorem length_signature_le_size_encode (b : Bitmap) : signature.length ≤ (encode b).size := by
  simp only [encode, ByteArray.size_append]
  have hsignature : (ofList signature).size = signature.length := rfl
  omega

/-- The width and height of an image, if it is a PNG image. -/
def size? (bytes : ByteArray) : Option (Nat × Nat) := do
  let first ← slice? bytes 0 8
  let width ← slice? bytes 16 4
  let height ← slice? bytes 20 4
  if first = signature then some (valueBig width, valueBig height) else none

end LatencyCurve.Png
