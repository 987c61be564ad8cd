/-!
# Grids

A dense table of equally wide rows, laid out row after row in one list. A cell is read by its
offset, so a column beyond the width reads on in the next row.
-/

namespace ParserFoundry

/-- Cells in rows of `width`. -/
structure Grid (α : Type) where
  width : Nat
  cells : List α
deriving DecidableEq, Repr, Inhabited

namespace Grid

variable {α : Type}

/-- Lay out rows one after the other. -/
def ofRows (width : Nat) (rows : List (List α)) : Grid α :=
  ⟨width, rows.flatten⟩

/-- The cell at a row and a column. -/
def get? (grid : Grid α) (row column : Nat) : Option α :=
  grid.cells[row * grid.width + column]?

/-- The cells of a row. -/
def row (grid : Grid α) (index : Nat) : List α :=
  (grid.cells.drop (index * grid.width)).take grid.width

end Grid

end ParserFoundry
