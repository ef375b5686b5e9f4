import BpfDepot.Text.Cut
import BpfDepot.Text.Width

/-! # Tables of text

A table has a row of headings and further rows, which may have fewer or more
cells. Every column is as wide as its widest cell, with a blank on either side. A
cell of several lines makes its row as high, and no lines are drawn. -/

namespace BpfDepot

/-- A row of headings above other rows. -/
structure Table where
  /-- The headings. -/
  headings : List String
  /-- The cells, row by row. -/
  rows : List (List String)
  deriving DecidableEq, Repr

namespace Table

/-- The lines of a cell. -/
def cellLines (cell : String) : List (List Char) := Text.pieces '\n' cell.toList

/-- All rows, the headings first. -/
def allRows (t : Table) : List (List String) := t.headings :: t.rows

/-- The number of columns. -/
def columnCount (t : Table) : Nat := (t.allRows.map List.length).foldl max 0

/-- The width of a cell. -/
def cellWidth (cell : String) : Nat := ((cellLines cell).map Text.columns).foldl max 0

/-- The width of each column. -/
def widths (t : Table) : List Nat :=
  (List.range t.columnCount).map fun i =>
    (t.allRows.map fun row => cellWidth (row.getD i "")).foldl max 0

/-- A line of a cell between blanks, filled up to a width. -/
def padLine (width : Nat) (line : List Char) : List Char :=
  ' ' :: line ++ List.replicate (width - Text.columns line) ' ' ++ [' ']

/-- The lines of a row. -/
def rowLines (widths : List Nat) (row : List String) : List (List Char) :=
  let cells := widths.zipIdx.map fun (width, i) => (width, cellLines (row.getD i ""))
  let height := (cells.map fun cell => cell.2.length).foldl max 1
  (List.range height).map fun j =>
    cells.flatMap fun (width, lines) => padLine width (lines.getD j [])

/-- The text of a table, without a line end after its last line. -/
def render (t : Table) : String :=
  "\n".intercalate ((t.allRows.flatMap (rowLines t.widths)).map String.ofList)

end Table

end BpfDepot
