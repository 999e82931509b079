/-!
# Numbers as bytes

The byte orders that image formats use, and the two checksums of PNG.
-/

namespace LatencyCurve.Bytes

/-- A byte with the value of a number, modulo 256. -/
def byte (n : Nat) : UInt8 := n.toUInt8

/-- Bytes from a list. -/
def ofList (bs : List UInt8) : ByteArray := ⟨bs.toArray⟩

/-- A number in two bytes, the higher first. -/
def big16 (n : Nat) : List UInt8 :=
  [byte (n / 256), byte n]

/-- A number in four bytes, the highest first. -/
def big32 (n : Nat) : List UInt8 :=
  [byte (n / 0x1000000), byte (n / 0x10000), byte (n / 256), byte n]

/-- A number in two bytes, the lower first. -/
def little16 (n : Nat) : List UInt8 :=
  (big16 n).reverse

/-- A number in four bytes, the lowest first. -/
def little32 (n : Nat) : List UInt8 :=
  (big32 n).reverse

/-- The number that bytes are, the highest first. -/
def valueBig (bs : List UInt8) : Nat :=
  bs.foldl (fun n b ↦ 256 * n + b.toNat) 0

theorem valueBig_big32 {n : Nat} (h : n < UInt32.size) : valueBig (big32 n) = n := by
  rw [UInt32.size] at h
  simp [valueBig, big32, byte]
  omega

/-- The bytes of some length at some place, if there are so many. -/
def slice? (bytes : ByteArray) (place length : Nat) : Option (List UInt8) :=
  if place + length ≤ bytes.size then
    some (bytes.extract place (place + length)).data.toList
  else none

/-! ### Checksums -/

/-- One bit of a cyclic redundancy check with the polynomial of PNG. -/
def crcBit (c : UInt32) : UInt32 :=
  if c &&& 1 = 1 then (c >>> 1) ^^^ (0xEDB88320 : UInt32) else c >>> 1

/-- The check of each single byte. -/
def crcTable : Array UInt32 :=
  (Array.range 256).map fun n ↦ (List.range 8).foldl (fun c _ ↦ crcBit c) n.toUInt32

/-- The cyclic redundancy check of some bytes. -/
def crc (bytes : ByteArray) : Nat :=
  let c : UInt32 := bytes.foldl
    (fun (c : UInt32) b ↦ crcTable.getD ((c ^^^ b.toUInt32) &&& 0xFF).toNat 0 ^^^ (c >>> 8))
    0xFFFFFFFF
  (c ^^^ 0xFFFFFFFF).toNat

/-- The Adler checksum of some bytes. -/
def adler (bytes : ByteArray) : Nat :=
  let s : UInt32 × UInt32 := bytes.foldl
    (fun (s : UInt32 × UInt32) b ↦
      let low := (s.1 + b.toUInt32) % 65521
      (low, (s.2 + low) % 65521))
    (1, 0)
  s.2.toNat * 65536 + s.1.toNat

end LatencyCurve.Bytes
