/-!
# Bitmaps

A picture in two colors, paper and ink. Rows are stored from the top, each in whole bytes, and the
leftmost of eight pixels is the highest bit.
-/

namespace LatencyCurve

/-- A picture in two colors. -/
structure Bitmap where
  /-- Pixels in a row -/
  width : Nat
  /-- Number of rows -/
  height : Nat
  /-- The rows, one bit for a pixel -/
  bits : ByteArray

namespace Bitmap

/-- Bytes in a row of some width. -/
def strideOf (width : Nat) : Nat := (width + 7) / 8

/-- Bytes in a row. -/
def stride (b : Bitmap) : Nat := strideOf b.width

/-- A picture of nothing but paper. -/
def blank (width height : Nat) : Bitmap :=
  ⟨width, height, ⟨Array.replicate (strideOf width * height) 0⟩⟩

/-- A picture with one more pixel in ink; nothing is changed outside the picture. -/
def ink (b : Bitmap) (x y : Nat) : Bitmap :=
  if x < b.width && y < b.height then
    let place := y * strideOf b.width + x / 8
    let mask : UInt8 := 0x80 >>> (x % 8).toUInt8
    match b with
    | ⟨w, h, bits⟩ => ⟨w, h, bits.set! place (bits.get! place ||| mask)⟩
  else b

/-- A picture with a box in ink, corners included. -/
def inkBox (b : Bitmap) (p q : Nat × Nat) : Bitmap :=
  let left := min p.1 q.1
  let top := min p.2 q.2
  (List.range (max p.2 q.2 + 1 - top)).foldl
    (fun b dy ↦
      (List.range (max p.1 q.1 + 1 - left)).foldl (fun b dx ↦ b.ink (left + dx) (top + dy)) b)
    b

/-- A picture with a path in ink, whose sides are level or upright. -/
def inkPath (b : Bitmap) : List (Nat × Nat) → Bitmap
  | [] => b
  | [_] => b
  | p :: q :: rest => (b.inkBox p q).inkPath (q :: rest)

/-- The bytes of a row. -/
def row (b : Bitmap) (y : Nat) : ByteArray :=
  b.bits.extract (y * b.stride) ((y + 1) * b.stride)

@[simp] theorem width_ink (b : Bitmap) (x y : Nat) : (b.ink x y).width = b.width := by
  unfold ink; split <;> rfl

@[simp] theorem height_ink (b : Bitmap) (x y : Nat) : (b.ink x y).height = b.height := by
  unfold ink; split <;> rfl

/-- A fold that never changes a measure of its state ends with that of its start. -/
theorem foldl_keeps {α β γ : Type} {f : β → α → β} {m : β → γ} (h : ∀ b a, m (f b a) = m b)
    (l : List α) (b : β) : m (l.foldl f b) = m b := by
  induction l generalizing b with
  | nil => rfl
  | cons a l ih => rw [List.foldl_cons, ih, h]

@[simp] theorem width_inkBox (b : Bitmap) (p q : Nat × Nat) : (b.inkBox p q).width = b.width := by
  refine foldl_keeps (m := Bitmap.width) (fun b _ ↦ ?_) _ b
  exact foldl_keeps (m := Bitmap.width) (fun b _ ↦ width_ink b _ _) _ b

@[simp] theorem height_inkBox (b : Bitmap) (p q : Nat × Nat) :
    (b.inkBox p q).height = b.height := by
  refine foldl_keeps (m := Bitmap.height) (fun b _ ↦ ?_) _ b
  exact foldl_keeps (m := Bitmap.height) (fun b _ ↦ height_ink b _ _) _ b

@[simp] theorem width_inkPath (b : Bitmap) (path : List (Nat × Nat)) :
    (b.inkPath path).width = b.width := by
  fun_induction inkPath b path with
  | case1 | case2 => rfl
  | case3 b p q rest ih => rw [ih, width_inkBox]

@[simp] theorem height_inkPath (b : Bitmap) (path : List (Nat × Nat)) :
    (b.inkPath path).height = b.height := by
  fun_induction inkPath b path with
  | case1 | case2 => rfl
  | case3 b p q rest ih => rw [ih, height_inkBox]

end Bitmap

end LatencyCurve
