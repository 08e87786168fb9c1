/-
DoubleEntry/Text/Grid.lean

Tables in a frame of box-drawing lines.  Each column is as wide as its
widest line and at least one wide, a cell of several lines makes its row as
high, and rows that are too short get empty cells at their end.
-/
import DoubleEntry.Text.Width

namespace DoubleEntry.Text

/-- A table: perhaps a header, and rows of cells. -/
structure Grid where
  header : Option (List String) := none
  rows : List (List String)
  deriving DecidableEq, Repr

/-- The characters that a horizontal line is drawn with. -/
structure Rule where
  left : Char
  line : Char
  cross : Char
  right : Char

namespace Grid

/-- The line above the table. -/
def topRule : Rule := ⟨'┌', '─', '┬', '┐'⟩

/-- The line under the header. -/
def headerRule : Rule := ⟨'╞', '═', '╪', '╡'⟩

/-- The line under the table. -/
def bottomRule : Rule := ⟨'└', '─', '┴', '┘'⟩

/-- The lines of a cell. -/
def cellLines (cell : String) : List String :=
  cell.splitOn "\n"

/-- The width of a cell. -/
def cellWidth (cell : String) : Nat :=
  ((cellLines cell).map width).foldl max 0

/-- The header, if there is one, and the rows. -/
def allRows (g : Grid) : List (List String) :=
  g.header.toList ++ g.rows

/-- The widths of the columns. -/
def columnWidths (g : Grid) : List Nat :=
  let count := (g.allRows.map List.length).foldl max 0
  (List.range count).map fun i =>
    (g.allRows.map fun row => cellWidth (row.getD i "")).foldl max 1

/-- A horizontal line over columns of these widths. -/
def ruleLine (r : Rule) (widths : List Nat) : List Char :=
  r.left :: [r.cross].intercalate (widths.map fun w => List.replicate (w + 2) r.line)
    ++ [r.right]

/-- A line of a cell, filled up to the width of its column. -/
def padded (w : Nat) (line : String) : List Char :=
  ' ' :: line.toList ++ List.replicate (w - width line) ' ' ++ [' ']

/-- The lines of a row. -/
def rowLines (widths : List Nat) (row : List String) : List (List Char) :=
  let cells := (List.range widths.length).map fun i => cellLines (row.getD i "")
  let height := (cells.map List.length).foldl max 0
  (List.range height).map fun k =>
    '│' :: ['┆'].intercalate
      (List.zipWith (fun w lines => padded w (lines.getD k "")) widths cells) ++ ['│']

/-- The text of a table, without a line end at its end. -/
def render (g : Grid) : String :=
  let ws := g.columnWidths
  let head :=
    match g.header with
    | some cells => rowLines ws cells ++ [ruleLine headerRule ws]
    | none => []
  String.ofList <| ['\n'].intercalate <|
    ruleLine topRule ws :: head ++ g.rows.flatMap (rowLines ws) ++ [ruleLine bottomRule ws]

end Grid

end DoubleEntry.Text
