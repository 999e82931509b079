import LatencyCurve.Image.Bitmap
import LatencyCurve.Image.Bytes

/-!
# JPEG images

Writing a bitmap as a JPEG image in shades of gray. A block of eight by eight pixels is written as
its mean shade and nothing else: only the first coefficient of a block is coded, as the difference
from that of the block before, and the others are zero. The format is lossy anyway, and a curve of
one color stays readable.
-/

namespace LatencyCurve.Jpeg

open Bytes

/-- The largest width and height, which are written in sixteen bits. -/
def largestSize : Nat := 65535

/-! ### Shades of blocks -/

/-- How many bits of a byte are set. -/
def bitCount (b : UInt8) : Nat :=
  if b = 0 then 0 else (List.range 8).foldl (fun n i ↦ n + (b.toNat >>> i) % 2) 0

/-- How much ink there is in a block, in pixels. -/
def blockInk (b : Bitmap) (column row : Nat) : Nat :=
  (List.range 8).foldl
    (fun n dy ↦
      let y := min (8 * row + dy) (b.height - 1)
      n + bitCount ((b.bits[y * b.stride + column]?).getD 0))
    0

/-- The mean shade of a block, with middle gray as zero: paper is white, ink is dark. -/
def blockShade (b : Bitmap) (column row : Nat) : Int :=
  127 - ((blockInk b column row * 226 / 64 : Nat) : Int)

/-- The shades of all blocks, row by row. -/
def shades (b : Bitmap) : List Int :=
  (List.range ((b.height + 7) / 8)).flatMap fun row ↦
    (List.range b.stride).map fun column ↦ blockShade b column row

/-! ### Codes -/

/-- Bits to write: their number, and their value. -/
abbrev Bits := Nat × Nat

/-- How many bits a difference needs. -/
def category (d : Int) : Nat :=
  if d = 0 then 0 else Nat.log2 d.natAbs + 1

/-- The code of a category, shortest for the middle ones. -/
def categoryCode : Nat → Bits
  | 0 => (2, 0b00)
  | 1 => (3, 0b010)
  | 2 => (3, 0b011)
  | 3 => (3, 0b100)
  | 4 => (3, 0b101)
  | 5 => (3, 0b110)
  | 6 => (4, 0b1110)
  | 7 => (5, 0b11110)
  | 8 => (6, 0b111110)
  | _ => (7, 0b1111110)

/-- The bits that pick a difference out of its category. -/
def differenceBits (d : Int) : Bits :=
  let n := category d
  (n, if 0 ≤ d then d.toNat else (d + (1 <<< n : Nat) - 1).toNat)

/-- The code of a block: the difference, and that all other coefficients are zero. -/
def blockBits (d : Int) : List Bits :=
  [categoryCode (category d), differenceBits d, (1, 0)]

/-- The differences of a list of numbers, the first one from some start. -/
def differences (start : Int) : List Int → List Int
  | [] => []
  | x :: xs => (x - start) :: differences x xs

/-! ### Bits to bytes -/

/-- State of the writing: the bytes so far, and fewer than eight bits that make no byte yet. -/
structure Writing where
  /-- The bytes so far -/
  bytes : ByteArray
  /-- How many bits are left over -/
  count : Nat
  /-- Their value -/
  value : Nat

/-- Writes a byte; a byte of ones is followed by a zero, so that it is not taken for a marker. -/
def pushByte (out : ByteArray) (n : Nat) : ByteArray :=
  let out := out.push (byte n)
  if byte n = 0xFF then out.push 0 else out

/-- Writes some bits, not more than eight. -/
def pushBits (w : Writing) (bits : Bits) : Writing :=
  let count := w.count + bits.1
  let value := (w.value <<< bits.1) + bits.2
  if 8 ≤ count then
    ⟨pushByte w.bytes (value >>> (count - 8)), count - 8, value % (1 <<< (count - 8))⟩
  else ⟨w.bytes, count, value⟩

/-- The bytes written, the last one filled up with ones. -/
def flush (w : Writing) : ByteArray :=
  if w.count = 0 then w.bytes
  else pushByte w.bytes (((w.value + 1) <<< (8 - w.count)) - 1)

/-- The coded blocks. -/
def scan (b : Bitmap) : ByteArray :=
  flush <| (differences 0 (shades b)).foldl (fun w d ↦ (blockBits d).foldl pushBits w)
    ⟨ByteArray.empty, 0, 0⟩

/-! ### The image -/

/-- A marker segment: marker, length and content. -/
def segment (marker : UInt8) (content : List UInt8) : List UInt8 :=
  [0xFF, marker] ++ big16 (content.length + 2) ++ content

/-- Everything in front of the coded blocks. -/
def headers (width height : Nat) : List UInt8 :=
  [0xFF, 0xD8] ++
    segment 0xE0 [0x4A, 0x46, 0x49, 0x46, 0, 1, 1, 0, 0, 1, 0, 1, 0, 0] ++
    segment 0xDB (0 :: List.replicate 64 8) ++
    segment 0xC0 ([8] ++ big16 height ++ big16 width ++ [1, 1, 0x11, 0]) ++
    segment 0xC4 ([0x00] ++ [0, 1, 5, 1, 1, 1, 1, 1, 1, 0, 0, 0, 0, 0, 0, 0] ++
      [0, 1, 2, 3, 4, 5, 6, 7, 8, 9, 10, 11]) ++
    segment 0xC4 ([0x10] ++ [1, 0, 0, 0, 0, 0, 0, 0, 0, 0, 0, 0, 0, 0, 0, 0] ++ [0]) ++
    segment 0xDA [1, 1, 0, 0, 63, 0]

/-- A bitmap as a JPEG image. -/
def encode (b : Bitmap) : ByteArray :=
  ofList (headers b.width b.height) ++ scan b ++ ofList [0xFF, 0xD9]

end LatencyCurve.Jpeg
