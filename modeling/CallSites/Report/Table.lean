import CallSites.Report.Columns
import CallSites.Report.Line
import CallSites.Report.Markup
import CallSites.Report.Wrap

/-! # Tables

A table has columns with headings and rows of cells. Cells hold text with markup. A table is drawn
in a given width: columns are narrowed where needed, and the texts of their cells wrapped.
-/

namespace CallSites.Report

/-- The heading of a column and the style of its cells. -/
structure Column where
  heading : List Char
  style : Style
deriving DecidableEq, Repr

/-- Columns, and rows with one cell for each column. -/
structure Table where
  columns : List Column
  rows : List (List (List Char))
deriving DecidableEq, Repr

namespace Table

/-- Blank cells to the left and to the right of a text. -/
def padding : Nat := 2

/-- The width that each column asks for: its longest text and the padding. -/
def wantedWidths (table : Table) : List Nat :=
  let wanted (cell : List Char) : Nat := padding + Text.cells (Markup.shown cell)
  (table.rows.map fun row => row.map wanted).foldl (List.zipWith max)
    (table.columns.map fun column => wanted column.heading)

/-- The widths of the columns in a terminal; the borders take one cell beside each column and one
more. -/
def widths (table : Table) (width : Nat) : List Nat :=
  Columns.fitted (width - (table.columns.length + 1)) table.wantedWidths

/-- The three spans of one line of a cell. -/
def cellLine (style : Style) (text : List Char) : Line :=
  [⟨style, [' ']⟩, ⟨style, text⟩, ⟨style, [' ']⟩]

/-- The lines of a cell, of which there are at least `height`. -/
def cellLines (height width : Nat) (style : Style) (lines : List (List Char)) : List Line :=
  (lines ++ List.replicate (height - lines.length) []).map fun line =>
    cellLine style (fit (width - padding) line)

/-- The cells of one line with an edge before, between and after them. -/
def joinCells (edge : Char) (cells : List Line) : Line :=
  ⟨.plain, [edge]⟩ :: cells.flatMap fun cell => cell ++ [⟨.plain, [edge]⟩]

/-- The lines of a row. All cells are made as high as the highest. -/
def rowLines (edge : Char) (widths : List Nat) (cells : List (Style × List Char)) : List Line :=
  let wrapped := List.zipWith
    (fun width (style, cell) => (width, style, wrap (width - padding) (Markup.shown cell)))
    widths cells
  let height := (wrapped.map fun (_, _, lines) => lines.length).foldl max 0
  let columns := wrapped.map fun (width, style, lines) => cellLines height width style lines
  (List.range height).map fun index =>
    joinCells edge (columns.map fun lines => lines.getD index [])

/-- The four characters of a horizontal border. -/
structure Border where
  left : Char
  fill : Char
  middle : Char
  right : Char
deriving DecidableEq, Repr

/-- A horizontal border over columns of the given widths. -/
def Border.line (border : Border) (widths : List Nat) : Line :=
  let parts := widths.map fun width => List.replicate width border.fill
  Line.unstyled (border.left :: List.intercalate [border.middle] parts ++ [border.right])

def topBorder : Border := ⟨'┏', '━', '┳', '┓'⟩

def headBorder : Border := ⟨'┡', '━', '╇', '┩'⟩

def bottomBorder : Border := ⟨'└', '─', '┴', '┘'⟩

/-- The lines of a table in a terminal of the given width. -/
def lines (table : Table) (width : Nat) : List Line :=
  let widths := table.widths width
  let headings := table.columns.map fun column => (Style.bold, column.heading)
  let styled (row : List (List Char)) := List.zip (table.columns.map Column.style) row
  topBorder.line widths :: rowLines '┃' widths headings ++
    headBorder.line widths :: table.rows.flatMap (fun row => rowLines '│' widths (styled row)) ++
    [bottomBorder.line widths]

end Table

end CallSites.Report
