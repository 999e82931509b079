import LatencyCurve.Text.Styled

/-!
# Tables

A table is a list of rows under a row of headers. Every column is as wide as its widest cell, its
header included, and every cell is padded to that width; so all lines of a table are equally long.
-/

namespace LatencyCurve

/-- A column of a table. -/
structure Column where
  /-- The name over the column -/
  header : String
  /-- On which side the cells stand -/
  align : Align
deriving DecidableEq, Repr

/-- A table: its columns and the cells of its rows. -/
structure Table where
  /-- The columns -/
  columns : List Column
  /-- The rows, each with a cell for every column -/
  rows : List (List String)
deriving DecidableEq, Repr

namespace Table

/-- The width of the longest of some texts. -/
def widest (texts : List String) : Nat :=
  texts.foldl (fun w s ↦ max w s.length) 0

/-- The width of each column. -/
def widths (t : Table) : List Nat :=
  t.columns.zipIdx.map fun c ↦ widest (c.1.header :: t.rows.filterMap (·[c.2]?))

/-- The cells of a row, padded to the widths of their columns. -/
def paddedCells (t : Table) (cells : List String) : List String :=
  (t.columns.zip t.widths).zipWith (fun c s ↦ pad c.1.align c.2 s) cells

/-- The line above and below the rows of a table with borders. -/
def rule (t : Table) : String :=
  "+" ++ String.join (t.widths.map fun w ↦ String.ofList (List.replicate (w + 2) '-') ++ "+")

/-- A row between borders. -/
def borderedRow (t : Table) (cells : List String) : String :=
  "|" ++ String.join ((t.paddedCells cells).map fun s ↦ " " ++ s ++ " |")

/-- A row without borders. -/
def plainRow (t : Table) (cells : List String) : String :=
  String.intercalate "  " (t.paddedCells cells)

/-- The lines of a table, with borders or without. -/
def lines (borders : Bool) (t : Table) : List String :=
  let headers := t.columns.map (·.header)
  if borders then
    [t.rule, t.borderedRow headers, t.rule] ++ t.rows.map t.borderedRow ++ [t.rule]
  else t.plainRow headers :: t.rows.map t.plainRow

end Table

end LatencyCurve
