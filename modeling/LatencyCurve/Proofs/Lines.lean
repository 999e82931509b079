import LatencyCurve.Proofs.Segments

/-!
# Lines of a text, part by part

A text may be cut behind a line feed, and its lines are then those of the first part followed by
those of the second (`linesOf_append`). The provisos of what a line is do not get in the way: a
carriage return belongs to a line end only if the line feed is right behind it, which is then in the
same part, and the piece behind the last line feed of the first part is the beginning of the second.
-/

namespace LatencyCurve

/-- Pieces that are not the last ones were ended by a line feed. -/
theorem linesOfPieces_append (ended : List (List Char)) {rest : List (List Char)} (h : rest ≠ []) :
    linesOfPieces (ended ++ rest) = ended.map dropReturn ++ linesOfPieces rest := by
  rw [linesOfPieces, linesOfPieces, List.getLast?_append_of_ne_nil _ h,
    List.dropLast_append_of_ne_nil h, List.map_append, List.getLast?_eq_some_getLast h]
  dsimp only
  split
  · rfl
  · rw [List.append_assoc]

/-- The lines on both sides of a line feed. -/
theorem linesOf_append_lineFeed (s t : List Char) :
    linesOf (s ++ '\n' :: t) = (piecesAt '\n' s).map dropReturn ++ linesOf t := by
  rw [linesOf, piecesAt_append_sep, linesOfPieces_append _ (piecesAt_ne_nil '\n' t), linesOf]

/-- The lines of a text that ends with a line feed: every piece of it is one. -/
theorem linesOf_concat_lineFeed (s : List Char) :
    linesOf (s ++ ['\n']) = (piecesAt '\n' s).map dropReturn := by
  rw [linesOf_append_lineFeed, linesOf_nil, List.append_nil]

/-- **Lines may be read part by part**, if the first part ends with a line. -/
theorem linesOf_append {s : List Char} (h : s = [] ∨ s.getLast? = some '\n') (t : List Char) :
    linesOf (s ++ t) = linesOf s ++ linesOf t := by
  rcases h with rfl | h
  · rfl
  · obtain ⟨init, rfl⟩ := List.getLast?_eq_some_iff.1 h
    rw [List.append_assoc, List.singleton_append, linesOf_append_lineFeed, linesOf_concat_lineFeed]

/-- Without a line feed there is one line, whatever else is in the text. -/
theorem linesOf_of_notMem {s : List Char} (h : '\n' ∉ s) (hne : s ≠ []) : linesOf s = [s] := by
  rw [linesOf, piecesAt_of_notMem h, linesOfPieces]
  simp [hne]

end LatencyCurve
