/-!
# Pieces and lines of a text

A text is cut at a separator into pieces, one more than there are separators. Lines are those pieces
at line feeds with two provisos: a carriage return right before the line feed belongs to the line
end, and nothing after the last line feed is not a line.

Only a line feed ends a line. A carriage return elsewhere, a form feed or any of the other line
separators of Unicode stays inside its line.
-/

namespace LatencyCurve

/-! ### Cutting at a separator -/

/-- Puts a character in front of the first of a list of pieces. -/
def pushFront (c : Char) : List (List Char) → List (List Char)
  | [] => [[c]]
  | piece :: rest => (c :: piece) :: rest

/-- The pieces of a text between the occurrences of a separator. There is always at least one. -/
def piecesAt (sep : Char) (s : List Char) : List (List Char) :=
  s.foldr (fun c acc ↦ if c = sep then [] :: acc else pushFront c acc) [[]]

@[simp] theorem piecesAt_nil (sep : Char) : piecesAt sep [] = [[]] := rfl

theorem piecesAt_cons (sep c : Char) (s : List Char) :
    piecesAt sep (c :: s) =
      if c = sep then [] :: piecesAt sep s else pushFront c (piecesAt sep s) :=
  rfl

theorem piecesAt_ne_nil (sep : Char) (s : List Char) : piecesAt sep s ≠ [] := by
  cases s with
  | nil => simp
  | cons c s =>
    rw [piecesAt_cons]
    split
    · simp
    · cases piecesAt sep s <;> simp [pushFront]

/-! ### Lines -/

/-- A line without the carriage return that belongs to its end. -/
def dropReturn (line : List Char) : List Char :=
  if line.getLast? = some '\r' then line.dropLast else line

/-- The lines of a text that has been cut at its line feeds: the last piece was not ended by one. -/
def linesOfPieces (pieces : List (List Char)) : List (List Char) :=
  let ended := pieces.dropLast.map dropReturn
  match pieces.getLast? with
  | none => ended
  | some rest => if rest = [] then ended else ended ++ [rest]

/-- The lines of a text. -/
def linesOf (s : List Char) : List (List Char) :=
  linesOfPieces (piecesAt '\n' s)

@[simp] theorem linesOf_nil : linesOf [] = [] := rfl

end LatencyCurve
