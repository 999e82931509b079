import LatencyCurve.Chart.FontPlaces
import LatencyCurve.Disk.Basic
import LatencyCurve.Image.Bytes

/-!
# Fonts

A chart has text only if there is a font for it. A process uses one font: the first that could be
used stays registered, and all later charts have that one, whatever they ask for.

What a font file has to be is little: a table directory with the three tables without which no glyph
can be measured, each of them well formed. A file that is not that is no error; the chart is then
drawn without text, or with the registered font, and the outcome says why.
-/

namespace LatencyCurve.Font

open Bytes

/-! ### What a font file is -/

/-- The number in two bytes at some place. -/
def u16? (bytes : ByteArray) (place : Nat) : Option Nat :=
  (slice? bytes place 2).map valueBig

/-- The number in four bytes at some place. -/
def u32? (bytes : ByteArray) (place : Nat) : Option Nat :=
  (slice? bytes place 4).map valueBig

/-- A table as the directory lists it. -/
structure TableEntry where
  /-- Its four letters, as a number -/
  tag : Nat
  /-- Where it begins -/
  offset : Nat
  /-- How long it is -/
  length : Nat
deriving DecidableEq, Repr

/-- An entry of the table directory. -/
def entryAt? (bytes : ByteArray) (place : Nat) : Option TableEntry := do
  return ⟨← u32? bytes place, ← u32? bytes (place + 8), ← u32? bytes (place + 12)⟩

/-- Where the first font of a collection begins: not before the end of the list of fonts. -/
def firstOfCollection? (bytes : ByteArray) : Option Nat := do
  let count ← u32? bytes 8
  let place ← u32? bytes 12
  if count ≠ 0 && 12 + 4 * count ≤ place && place ≤ bytes.size then some place else none

/-- Where the font of a file begins: at its start, unless the file is a collection. -/
def fontStart? (bytes : ByteArray) : Option Nat := do
  if (← u32? bytes 0) = 0x74746366 then firstOfCollection? bytes else some 0

/-- The table directory of the font of a file, for outlines in either format. -/
def directory? (bytes : ByteArray) : Option (List TableEntry) := do
  let start ← fontStart? bytes
  let version ← u32? bytes start
  let count ← u16? bytes (start + 4)
  if version = 0x00010000 || version = 0x74727565 || version = 0x4F54544F then
    (List.range count).mapM fun i ↦ entryAt? bytes (start + 12 + 16 * i)
  else none

/-- The content of the table with a tag; an entry that leads out of the file has none. -/
def table? (bytes : ByteArray) (entries : List TableEntry) (tag : Nat) : Option ByteArray := do
  let entry ← entries.reverse.find? (·.tag = tag)
  if entry.offset + entry.length ≤ bytes.size then
    some (bytes.extract entry.offset (entry.offset + entry.length))
  else none

/-- Whether the table of general values is well formed: units in an em from 16 to 16384, and one of
the two formats of glyph locations. -/
def headOk (t : ByteArray) : Bool :=
  54 ≤ t.size && (u16? t 18).any (fun u ↦ 16 ≤ u && u ≤ 16384) && (u16? t 50).any (· ≤ 1)

/-- Whether the table of horizontal metrics is well formed. -/
def hheaOk (t : ByteArray) : Bool :=
  36 ≤ t.size

/-- Whether the table of sizes is well formed: one of two versions, and any glyphs at all. -/
def maxpOk (t : ByteArray) : Bool :=
  (u32? t 0).any (fun v ↦ v = 0x00005000 || v = 0x00010000) && (u16? t 4).any (0 < ·)

/-- Whether a font can be used. -/
def isUsable (bytes : ByteArray) : Bool :=
  match directory? bytes with
  | none => false
  | some entries =>
    (table? bytes entries 0x68656164).any headOk &&
      (table? bytes entries 0x68686561).any hheaOk &&
      (table? bytes entries 0x6D617870).any maxpOk

/-! ### The registered font -/

/-- The font that a process has registered, if any. -/
abbrev Registry := Option Path

/-- Registers a font unless there is one already: the font in use, or why there is none. -/
def register (d : Disk) (registry : Registry) (p : Path) : Except String Path :=
  match registry with
  | some active => .ok active
  | none =>
    match d.read p with
    | .error e => .error ("reading font file '" ++ p.text ++ "': " ++ e.text)
    | .ok bytes =>
      if isUsable bytes then .ok p
      else .error ("'" ++ p.text ++ "' is not a usable TrueType/OpenType font")

/-- The first of the usual places where there is a file. -/
def discover? (d : Disk) : Option Path :=
  fontPlaces.find? d.isFile

/-- The font of a chart: which one, and what was wrong. A font that is chosen is registered. -/
structure Choice where
  /-- The font, if there is one -/
  font : Option Path
  /-- What was wrong with the font that was asked for, or that there is none -/
  warning : Option String
deriving DecidableEq, Repr

/-- What is said if no font is asked for and none is found. -/
def noneFound : String := "no system font found, drawing chart without text"

/-- The font of a chart that asks for none that can be had. -/
def fallback (d : Disk) (registry : Registry) (warning : Option String) : Choice :=
  match registry with
  | some active => ⟨some active, warning⟩
  | none =>
    match discover? d with
    | none => ⟨none, warning <|> some noneFound⟩
    | some place =>
      match register d none place with
      | .ok active => ⟨some active, warning⟩
      | .error reason => ⟨none, some reason⟩

/-- The font of a chart. -/
def choose (d : Disk) (registry : Registry) (requested : Option Path) : Choice :=
  match requested with
  | none => fallback d registry none
  | some p =>
    match register d registry p with
    | .ok active => ⟨some active, none⟩
    | .error reason => fallback d registry (some reason)

/-- The registry after a choice. -/
def registryAfter (registry : Registry) (choice : Choice) : Registry :=
  registry <|> choice.font

end LatencyCurve.Font
