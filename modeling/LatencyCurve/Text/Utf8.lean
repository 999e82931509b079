/-!
# Decoding bytes as text

Bytes are decoded as UTF-8, and no bytes are refused: each maximal part of an ill-formed sequence is
read as one replacement character, `U+FFFD`. So a damaged log keeps its lines, and damage stays in
the line it is in.

## Shape decisions

* **The decoder is a fold over the bytes.** Its state holds what is owed to the character begun
  last, so decoding the rest of a file needs to know nothing else about what came before.
* **The bounds of the next byte are part of the state.** Which second bytes are well formed depends
  on the first byte (Unicode, table 3-7): `E0`, `ED`, `F0` and `F4` each narrow the range.
* **A byte that does not fit is looked at twice.** It ends the character begun before it, which is
  then ill formed, and may begin one of its own. A line feed never fits, so it always stands for
  itself.
-/

namespace LatencyCurve.Utf8

/-- The character an ill-formed part is read as. -/
def replacement : Char := '\uFFFD'

/-- A character that has been begun: how many bytes are still owed, the code point so far, and the
bounds of the next byte. -/
structure Pending where
  /-- How many bytes are still to come, not counting the first of them -/
  more : Nat
  /-- The bits read so far -/
  code : Nat
  /-- Least value of the next byte -/
  low : Nat
  /-- Largest value of the next byte -/
  high : Nat
deriving DecidableEq, Repr

/-- State of the decoder: the characters read so far, in reverse, and the character begun last. -/
structure State where
  /-- Characters read so far, the last one first -/
  read : List Char
  /-- The character begun last, if it is not complete -/
  pending : Option Pending
deriving DecidableEq, Repr

/-- Nothing read yet. -/
def State.start : State := ⟨[], none⟩

/-- What a byte at the beginning of a character means: a character by itself, the first of several
bytes, or neither. -/
def firstByte (b : Nat) : Option (Char ⊕ Pending) :=
  if b < 0x80 then some (.inl (Char.ofNat b))
  else if 0xC2 ≤ b && b ≤ 0xDF then some (.inr ⟨0, b - 0xC0, 0x80, 0xBF⟩)
  else if 0xE0 ≤ b && b ≤ 0xEF then
    some (.inr ⟨1, b - 0xE0, if b = 0xE0 then 0xA0 else 0x80, if b = 0xED then 0x9F else 0xBF⟩)
  else if 0xF0 ≤ b && b ≤ 0xF4 then
    some (.inr ⟨2, b - 0xF0, if b = 0xF0 then 0x90 else 0x80, if b = 0xF4 then 0x8F else 0xBF⟩)
  else none

/-- Reads a byte at the beginning of a character. -/
def begin (read : List Char) (b : Nat) : State :=
  match firstByte b with
  | some (.inl c) => ⟨c :: read, none⟩
  | some (.inr p) => ⟨read, some p⟩
  | none => ⟨replacement :: read, none⟩

/-- Reads one byte. -/
def step (s : State) (byte : UInt8) : State :=
  let b := byte.toNat
  match s.pending with
  | none => begin s.read b
  | some p =>
    if p.low ≤ b && b ≤ p.high then
      let code := p.code * 64 + (b - 0x80)
      match p.more with
      | 0 => ⟨Char.ofNat code :: s.read, none⟩
      | more + 1 => ⟨s.read, some ⟨more, code, 0x80, 0xBF⟩⟩
    else begin (replacement :: s.read) b

/-- The text read, once there are no more bytes: a character left incomplete is ill formed. -/
def State.finish (s : State) : List Char :=
  match s.pending with
  | none => s.read.reverse
  | some _ => (replacement :: s.read).reverse

/-- The text that bytes are read as. -/
def decode (bytes : List UInt8) : List Char :=
  (bytes.foldl step .start).finish

@[simp] theorem decode_nil : decode [] = [] := rfl

end LatencyCurve.Utf8
