/-!
# Identifiers

The ids of sessions and operations are sixteen random bytes, of which six bits are fixed: they say
that the rest is random. They are written in base sixteen, in five groups.
-/

namespace LatencyCurve.Identifier

/-- A byte in two digits. -/
def byteText (b : UInt8) : List Char :=
  [Nat.digitChar (b.toNat / 16), Nat.digitChar (b.toNat % 16)]

/-- Bytes with the six bits fixed: version four, and the variant that has versions. -/
def mark (bytes : List UInt8) : List UInt8 :=
  bytes.mapIdx fun i b ↦
    if i = 6 then (b &&& 0x0F) ||| 0x40 else if i = 8 then (b &&& 0x3F) ||| 0x80 else b

/-- Some bytes as a group of digits. -/
def group (bytes : List UInt8) : String :=
  String.ofList (bytes.flatMap byteText)

/-- The identifier of sixteen random bytes. -/
def ofBytes (bytes : List UInt8) : String :=
  let marked := mark bytes
  String.intercalate "-"
    [group (marked.take 4), group ((marked.drop 4).take 2), group ((marked.drop 6).take 2),
      group ((marked.drop 8).take 2), group ((marked.drop 10).take 6)]

end LatencyCurve.Identifier
