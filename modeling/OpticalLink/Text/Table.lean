import OpticalLink.Text.Wrap

/-!
# Tables in boxes

A table has a header and rows of as many cells. Every column is as wide as its
widest line with one blank on either side, up to a limit beyond which lines are
broken. A double line stands under the header and a dotted one between rows.
-/

namespace OpticalLink.Text

/-- A header and rows of cells. -/
structure Table where
  header : List String
  rows : List (List String)
deriving Repr

namespace Table

/-- The characters of a horizontal line: its left end, its filling, its crossings
and its right end. -/
structure Rule where
  left : Char
  fill : Char
  cross : Char
  right : Char

/-- The line above the header. -/
def topRule : Rule := ⟨'┌', '─', '┬', '┐'⟩

/-- The line below the header. -/
def headerRule : Rule := ⟨'╞', '═', '╪', '╡'⟩

/-- The line between two rows. -/
def rowRule : Rule := ⟨'├', '╌', '┼', '┤'⟩

/-- The line below the last row. -/
def bottomRule : Rule := ⟨'└', '─', '┴', '┘'⟩

/-- The widest that the content of a column can be, and a horizontal line over it. -/
def widest : Nat := 65535

/-- Draws a horizontal line over columns of the given content widths. -/
def Rule.draw (rule : Rule) (widths : List Nat) : String :=
  let spans := widths.map fun width =>
    String.ofList (List.replicate (min widest (width + 2)) rule.fill)
  String.singleton rule.left ++ (String.singleton rule.cross).intercalate spans ++
    String.singleton rule.right

/-- The lines of a cell. -/
def cellLines (cell : String) : List String := (cell.toList.splitOn '\n').map String.ofList

/-- The columns of the widest line of a cell, within the limit. -/
def cellWidth (cell : String) : Nat :=
  min widest ((cellLines cell).foldl (fun most line => max most (width line)) 0)

/-- Columns that have room for one more row. -/
def widened (widths : List Nat) (row : List String) : List Nat :=
  widths.zipWith (fun most cell => max most (cellWidth cell)) row

/-- The content width of every column. -/
def columnWidths (table : Table) : List Nat :=
  table.rows.foldl widened (table.header.map cellWidth)

/-- A line filled with blanks up to a width, between two blanks. -/
def padded (columns : Nat) (line : String) : String :=
  " " ++ line ++ String.ofList (List.replicate (columns - width line) ' ') ++ " "

/-- One line of a row. -/
def drawLine (widths : List Nat) (lines : List String) : String :=
  "│" ++ "┆".intercalate (widths.zipWith padded lines) ++ "│"

/-- A row, as many lines high as its highest cell. -/
def drawRow (widths : List Nat) (cells : List String) : List String :=
  let cells := widths.zipWith (fun columns cell => (cellLines cell).flatMap (wrapped columns)) cells
  let height := cells.foldl (fun highest lines => max highest lines.length) 0
  (List.range height).map fun index =>
    drawLine widths (cells.map fun lines => lines[index]?.getD "")

/-- The table as lines of text. -/
def lines (table : Table) : List String :=
  let widths := table.columnWidths
  let rows := (table.rows.map (drawRow widths)).intersperse [rowRule.draw widths]
  [topRule.draw widths] ++ drawRow widths table.header ++ [headerRule.draw widths] ++
    rows.flatten ++ [bottomRule.draw widths]

/-- The table as text without a final line break. -/
def render (table : Table) : String := "\n".intercalate table.lines

end Table

end OpticalLink.Text
