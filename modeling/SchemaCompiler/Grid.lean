import SchemaCompiler.Text.Basic

/-!
# Grids

A bordered table of text for a terminal. A cell may have several lines; every column is as wide as
its widest line, and shorter lines are filled up with spaces. How wide a text is, is a parameter.

Main definitions: `Grid`, `Grid.widths` and `Grid.render`.
-/

namespace SchemaCompiler

/-- A header and rows of cells, one for each column. -/
structure Grid where
  header : List Text
  rows : List (List Text)
  deriving DecidableEq, Repr

namespace Grid

variable (measure : Text → Nat)

/-- The width of the widest text, and no less than `least`. -/
def widest (least : Nat) (texts : List Text) : Nat :=
  texts.foldl (fun width t => max width (measure t)) least

/-- Column widths raised to hold a row, whose missing cells count for nothing. -/
def raiseWidths : List Nat → List Text → List Nat
  | width :: widths, cell :: cells =>
    widest measure width cell.lines :: raiseWidths widths cells
  | widths, _ => widths

/-- The width of every column: that of its header or of its widest line. -/
def widths (grid : Grid) : List Nat :=
  grid.rows.foldl (raiseWidths measure) (grid.header.map measure)

/-- A line between rows. -/
def border (widths : List Nat) : Text :=
  '+' :: widths.flatMap fun width => List.replicate (width + 2) '-' ++ ['+']

/-- A text filled up to a width. -/
def pad (width : Nat) (t : Text) : Text := t ++ List.replicate (width - measure t) ' '

/-- One line of a row: the line of this number of every cell, or nothing where a cell has fewer. -/
def rowLine (widths : List Nat) (cells : List (List Text)) (i : Nat) : Text :=
  '|' :: (cells.zip widths).flatMap fun (lines, width) =>
    ' ' :: pad measure width (lines[i]?.getD []) ++ ([' ', '|'] : Text)

/-- The number of lines of a row, at least one. -/
def height (cells : List (List Text)) : Nat :=
  max 1 (cells.foldl (fun height lines => max height lines.length) 0)

/-- The lines of a row. -/
def rowLines (widths : List Nat) (row : List Text) : List Text :=
  let cells := row.map Text.lines
  (List.range (height cells)).map (rowLine measure widths cells)

/-- The lines of a grid: its header between borders, its rows, and a border behind them if there
are any. -/
def renderLines (grid : Grid) : List Text :=
  let widths := grid.widths measure
  border widths :: rowLines measure widths grid.header ++ border widths ::
    grid.rows.flatMap (rowLines measure widths) ++
    (if grid.rows = [] then [] else [border widths])

/-- The text of a grid. -/
def render (grid : Grid) : Text := (grid.renderLines measure).flatMap fun line => line ++ ['\n']

end Grid

end SchemaCompiler
